/-!
# Random ids

An id that is drawn at random has the form of a UUID of version 4: 122 random bits
in hexadecimal, lower case, in five groups.

* `Uuid.text`: the id for random bits;
* `Uuid.isWellFormed`: whether a text is such an id.
-/

namespace Tether.Uuid

/-- The last `places` hexadecimal digits of `n`. -/
def hex (places n : Nat) : List Char :=
  let ds := Nat.toDigits 16 (n % Nat.pow 16 places)
  List.replicate (places - ds.length) '0' ++ ds

/-- The id for random bits. -/
def text (bits : Nat) : String :=
  String.ofList <| List.intercalate ['-']
    [hex 8 (bits >>> 90), hex 4 (bits >>> 74), '4' :: hex 3 (bits >>> 62),
      hex 1 (8 + bits >>> 60 % 4) ++ hex 3 (bits >>> 48), hex 12 bits]

/-- Whether a text has the form of a random id. -/
def isWellFormed (s : String) : Bool :=
  let cs := s.toList
  cs.length = 36 &&
    cs.zipIdx.all (fun (c, i) =>
      if i = 8 || i = 13 || i = 18 || i = 23 then c = '-'
      else c.isDigit || ('a' ≤ c && c ≤ 'f')) &&
    cs[14]? = some '4' && cs[19]?.any fun c => c = '8' || c = '9' || c = 'a' || c = 'b'

end Tether.Uuid
