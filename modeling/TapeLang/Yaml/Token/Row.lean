/-
  Row — a row of tokens that grows at its end.

  Tokens are added at the end of the row, or a few places before it.  The row keeps the latest token in
  front, so an older row stays what it was and adding a token costs the same however long the row is.
  The view is `toList`, which has them in order.
-/
import TapeLang.Yaml.Token

namespace TapeLang.Yaml

/-- A row of tokens. -/
structure TokenRow where
  /-- The tokens, the latest one first. -/
  latest : List Token := []
  /-- The number of tokens. -/
  size : Nat := 0
  /-- It is the number of those kept. -/
  length_latest : latest.length = size := by rfl

namespace TokenRow

/-- The tokens in order. -/
def toList (r : TokenRow) : List Token := r.latest.reverse

/-- Adds a token at the end. -/
def push (r : TokenRow) (t : Token) : TokenRow :=
  ⟨t :: r.latest, r.size + 1, by rw [List.length_cons, r.length_latest]⟩

/-- Adds a token several times at the end. -/
def pushAll (r : TokenRow) (t : Token) : Nat → TokenRow
  | 0 => r
  | n + 1 => (r.push t).pushAll t n

/-- Adds a token behind the first `place` ones. -/
def insert (r : TokenRow) (place : Nat) (t : Token) : TokenRow :=
  let behind := r.size - place
  ⟨r.latest.take behind ++ t :: r.latest.drop behind, r.size + 1, by
    rw [← r.length_latest, List.length_append, List.length_cons, List.length_take, List.length_drop]
    omega⟩

/-- The token at the end. -/
def last? (r : TokenRow) : Option Token := r.latest.head?

end TokenRow

end TapeLang.Yaml
