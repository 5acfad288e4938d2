/-!
# JSON documents

A `Json` is a document as it is written: arrays and objects keep their items in
the order of the text, and an object may repeat a key. As a *value*, an object
has neither order nor repeats; a document stands for a value when it is
`Ordered`, that is, the keys of every object increase.

* `Json.canonical`: the ordered document with the same value, where the last
  member with a key counts;
* `Json.ordered_canonical`, `Json.canonical_eq_self`: it is ordered, and leaves
  ordered documents as they are.
-/

namespace Tether

/-- A whole number that a JSON text can hold exactly: from `-2 ^ 63` to below `2 ^ 64`. -/
structure Integer where
  val : Int
  lower : -9223372036854775808 ≤ val := by decide
  upper : val < 18446744073709551616 := by decide
  deriving DecidableEq, Repr

namespace Integer

/-- The whole number `n`, unless it is out of range. -/
def ofInt? (n : Int) : Option Integer :=
  if h : -9223372036854775808 ≤ n ∧ n < 18446744073709551616 then some ⟨n, h.1, h.2⟩ else none

/-- The whole number of a machine word. -/
def ofUInt64 (n : UInt64) : Integer where
  val := n.toNat
  lower := by omega
  upper := by have := n.toNat_lt; omega

/-- The machine word of 64 bits with this value, if it has one. -/
def toUInt64? (n : Integer) : Option UInt64 :=
  if 0 ≤ n.val then some (UInt64.ofNat n.val.toNat) else none

/-- The machine word of 32 bits with this value, if it has one. -/
def toUInt32? (n : Integer) : Option UInt32 :=
  if 0 ≤ n.val ∧ n.val < 4294967296 then some (UInt32.ofNat n.val.toNat) else none

/-- The whole number of a machine word of 32 bits. -/
def ofUInt32 (n : UInt32) : Integer where
  val := n.toNat
  lower := by omega
  upper := by have := n.toNat_lt; omega

/-- The decimal digits, after a minus sign if negative. -/
def text (n : Integer) : String := toString n.val

end Integer

/-- A number: whole numbers and floats are different, also when equal in size. -/
inductive Number
  | integer (n : Integer)
  | real (x : Float)
  deriving DecidableEq, Repr

/-- A JSON document. -/
inductive Json
  | null
  | bool (b : Bool)
  | number (n : Number)
  | text (s : String)
  | array (items : List Json)
  | object (members : List (String × Json))
  deriving Inhabited, Repr

namespace Json

/-! ## Equality -/

mutual

/-- Whether two documents are the same. -/
def same : Json → Json → Bool
  | null, null => true
  | bool a, bool b => a == b
  | number a, number b => a = b
  | text a, text b => a == b
  | array a, array b => sameItems a b
  | object a, object b => sameMembers a b
  | _, _ => false

/-- Whether two lists of items are the same. -/
def sameItems : List Json → List Json → Bool
  | [], [] => true
  | a :: as, b :: bs => same a b && sameItems as bs
  | _, _ => false

/-- Whether two lists of members are the same. -/
def sameMembers : List (String × Json) → List (String × Json) → Bool
  | [], [] => true
  | (k, a) :: as, (l, b) :: bs => k == l && same a b && sameMembers as bs
  | _, _ => false

end

mutual

theorem eq_of_same : ∀ {a b : Json}, same a b = true → a = b
  | null, b, h => by cases b <;> simp_all [same]
  | bool _, b, h => by cases b <;> simp_all [same]
  | number _, b, h => by cases b <;> simp_all [same]
  | text _, b, h => by cases b <;> simp_all [same]
  | array as, b, h => by
    cases b with
    | array bs => exact congrArg array (eq_of_sameItems (by simpa [same] using h))
    | _ => simp [same] at h
  | object as, b, h => by
    cases b with
    | object bs => exact congrArg object (eq_of_sameMembers (by simpa [same] using h))
    | _ => simp [same] at h

theorem eq_of_sameItems : ∀ {as bs : List Json}, sameItems as bs = true → as = bs
  | [], bs, h => by cases bs <;> simp_all [sameItems]
  | a :: as, bs, h => by
    cases bs with
    | nil => simp [sameItems] at h
    | cons b bs =>
      simp only [sameItems, Bool.and_eq_true] at h
      rw [eq_of_same h.1, eq_of_sameItems h.2]

theorem eq_of_sameMembers : ∀ {as bs : List (String × Json)}, sameMembers as bs = true → as = bs
  | [], bs, h => by cases bs <;> simp_all [sameMembers]
  | (k, a) :: as, bs, h => by
    cases bs with
    | nil => simp [sameMembers] at h
    | cons b bs =>
      obtain ⟨l, b⟩ := b
      simp only [sameMembers, Bool.and_eq_true, beq_iff_eq] at h
      rw [h.1.1, eq_of_same h.1.2, eq_of_sameMembers h.2]

end

mutual

theorem same_self : ∀ a : Json, same a a = true
  | null => rfl
  | bool _ => by simp [same]
  | number _ => by simp [same]
  | text _ => by simp [same]
  | array as => by simp [same, sameItems_self as]
  | object as => by simp [same, sameMembers_self as]

theorem sameItems_self : ∀ as : List Json, sameItems as as = true
  | [] => rfl
  | a :: as => by simp [sameItems, same_self a, sameItems_self as]

theorem sameMembers_self : ∀ as : List (String × Json), sameMembers as as = true
  | [] => rfl
  | (k, a) :: as => by simp [sameMembers, same_self a, sameMembers_self as]

end

instance : DecidableEq Json := fun a b =>
  decidable_of_iff (same a b = true) ⟨eq_of_same, fun h => h ▸ same_self a⟩

/-! ## Members by key -/

variable {α : Type}

/-- Puts a member into a list with increasing keys, in place of one with its key. -/
def insertMember (key : String) (value : α) : List (String × α) → List (String × α)
  | [] => [(key, value)]
  | (k, v) :: ms =>
    if key < k then (key, value) :: (k, v) :: ms
    else if key = k then (key, value) :: ms
    else (k, v) :: insertMember key value ms

/-- Takes the members with the key `key` away. -/
def eraseMember (key : String) (ms : List (String × α)) : List (String × α) :=
  ms.filter (·.1 ≠ key)

/-! ## Order -/

/-- The keys increase, from member to member. -/
def Increasing (ms : List (String × α)) : Prop := ms.Pairwise (·.1 < ·.1)

mutual

/-- The keys of every object increase. -/
def Ordered : Json → Prop
  | array items => OrderedItems items
  | object members => Increasing members ∧ OrderedMembers members
  | _ => True

/-- All items are ordered. -/
def OrderedItems : List Json → Prop
  | [] => True
  | j :: js => Ordered j ∧ OrderedItems js

/-- The values of all members are ordered. -/
def OrderedMembers : List (String × Json) → Prop
  | [] => True
  | (_, j) :: ms => Ordered j ∧ OrderedMembers ms

end

mutual

/-- The ordered document with the same value: of the members of an object with
    one key, the last counts. -/
def canonical : Json → Json
  | array items => array (canonicalItems items)
  | object members => object (canonicalMembers [] members)
  | j => j

/-- The items in turn. -/
def canonicalItems : List Json → List Json
  | [] => []
  | j :: js => canonical j :: canonicalItems js

/-- The members put in turn into those with increasing keys. -/
def canonicalMembers (entered : List (String × Json)) :
    List (String × Json) → List (String × Json)
  | [] => entered
  | (k, j) :: ms => canonicalMembers (insertMember k (canonical j) entered) ms

end

theorem orderedMembers_iff {ms : List (String × Json)} :
    OrderedMembers ms ↔ ∀ m ∈ ms, Ordered m.2 := by
  induction ms with
  | nil => simp [OrderedMembers]
  | cons m ms ih => simp [OrderedMembers, ih]

theorem orderedItems_iff {js : List Json} : OrderedItems js ↔ ∀ j ∈ js, Ordered j := by
  induction js with
  | nil => simp [OrderedItems]
  | cons j js ih => simp [OrderedItems, ih]

theorem mem_insertMember {key : String} {value : α} {ms : List (String × α)} {m : String × α}
    (h : m ∈ insertMember key value ms) : m = (key, value) ∨ m ∈ ms := by
  induction ms with
  | nil => simpa [insertMember] using h
  | cons n ms ih => grind [insertMember]

theorem increasing_insertMember {key : String} {value : α} {ms : List (String × α)}
    (h : Increasing ms) : Increasing (insertMember key value ms) := by
  induction ms with
  | nil => simp [insertMember, Increasing]
  | cons m ms ih =>
    obtain ⟨k, v⟩ := m
    unfold Increasing at h ih ⊢
    rw [List.pairwise_cons] at h
    unfold insertMember
    split
    · rename_i hk
      refine List.pairwise_cons.2 ⟨?_, List.pairwise_cons.2 h⟩
      intro n hn
      rcases List.mem_cons.1 hn with rfl | hn
      · exact hk
      · exact String.lt_trans hk (h.1 n hn)
    · split
      · rename_i hk
        exact List.pairwise_cons.2 ⟨fun n hn => hk ▸ h.1 n hn, h.2⟩
      · rename_i hlt hne
        refine List.pairwise_cons.2 ⟨?_, ih h.2⟩
        intro n hn
        rcases mem_insertMember hn with rfl | hn
        · exact Std.lt_of_le_of_ne (String.not_lt.1 hlt) (Ne.symm hne)
        · exact h.1 n hn

mutual

/-- The canonical document is ordered. -/
theorem ordered_canonical : ∀ j : Json, Ordered (canonical j)
  | null | bool _ | number _ | text _ => by simp [canonical, Ordered]
  | array items => by simpa [canonical, Ordered] using orderedItems_canonicalItems items
  | object members => by
    rw [canonical, Ordered]
    exact canonicalMembers_ordered members [] (by simp [Increasing]) (by simp [OrderedMembers])

theorem orderedItems_canonicalItems : ∀ js : List Json, OrderedItems (canonicalItems js)
  | [] => by simp [canonicalItems, OrderedItems]
  | j :: js => by
    simpa [canonicalItems, OrderedItems] using ⟨ordered_canonical j, orderedItems_canonicalItems js⟩

theorem canonicalMembers_ordered : ∀ (ms entered : List (String × Json)),
    Increasing entered → OrderedMembers entered →
      Increasing (canonicalMembers entered ms) ∧ OrderedMembers (canonicalMembers entered ms)
  | [], entered, h, h' => by simpa [canonicalMembers] using ⟨h, h'⟩
  | (k, j) :: ms, entered, h, h' => by
    rw [canonicalMembers]
    refine canonicalMembers_ordered ms _ (increasing_insertMember h) (orderedMembers_iff.2 ?_)
    intro m hm
    rcases mem_insertMember hm with rfl | hm
    · exact ordered_canonical j
    · exact orderedMembers_iff.1 h' m hm

end

theorem insertMember_of_forall_lt {key : String} {value : α} {ms : List (String × α)}
    (h : ∀ m ∈ ms, m.1 < key) : insertMember key value ms = ms ++ [(key, value)] := by
  induction ms with
  | nil => rfl
  | cons m ms ih =>
    obtain ⟨k, v⟩ := m
    have hk : k < key := h (k, v) (by simp)
    rw [insertMember, if_neg (String.lt_asymm hk), if_neg (fun e => String.lt_irrefl _ (e ▸ hk)),
      ih fun n hn => h n (by simp [hn])]
    rfl

mutual

/-- Ordered documents are canonical. -/
theorem canonical_eq_self : ∀ {j : Json}, Ordered j → canonical j = j
  | null, _ | bool _, _ | number _, _ | text _, _ => by simp [canonical]
  | array items, h => by
    rw [canonical, canonicalItems_eq_self (by simpa [Ordered] using h)]
  | object members, h => by
    rw [Ordered] at h
    rw [canonical, canonicalMembers_eq_append h.1 h.2 (by simp)]
    rfl

theorem canonicalItems_eq_self : ∀ {js : List Json}, OrderedItems js → canonicalItems js = js
  | [], _ => by simp [canonicalItems]
  | j :: js, h => by
    rw [OrderedItems] at h
    rw [canonicalItems, canonical_eq_self h.1, canonicalItems_eq_self h.2]

theorem canonicalMembers_eq_append : ∀ {ms entered : List (String × Json)},
    Increasing ms → OrderedMembers ms → (∀ e ∈ entered, ∀ m ∈ ms, e.1 < m.1) →
      canonicalMembers entered ms = entered ++ ms
  | [], _, _, _, _ => by simp [canonicalMembers]
  | (k, j) :: ms, entered, h, h', hlt => by
    rw [OrderedMembers] at h'
    unfold Increasing at h
    rw [List.pairwise_cons] at h
    rw [canonicalMembers, canonical_eq_self h'.1,
      insertMember_of_forall_lt fun e he => hlt e he (k, j) (by simp),
      canonicalMembers_eq_append h.2 h'.2]
    · simp
    · intro e he m hm
      rcases List.mem_append.1 he with he | he
      · exact hlt e he m (by simp [hm])
      · rw [List.mem_singleton.1 he]
        exact h.1 m hm

end

end Json

end Tether
