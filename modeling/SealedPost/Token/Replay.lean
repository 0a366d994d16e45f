import SealedPost.Token.Refusal

/-! # Identifiers that were used

A cache holds the identifiers of accepted tokens with the last second in which they may
not be used again. Entries whose time is past are swept when the next identifier comes. -/

namespace SealedPost.Token

/-- Identifiers with the last second of their validity. -/
abbrev Cache := List (Text × Int)

namespace Cache

/-- The entries whose time is not past. -/
def sweep (now : Int) (c : Cache) : Cache := c.filter fun entry => now ≤ entry.2

/-- Whether an identifier is in the cache. -/
def holds (c : Cache) (id : Text) : Bool := c.any fun entry => entry.1 = id

/-- Takes an identifier once: an empty one is missing and changes nothing, one in the cache
is a replay, any other is kept until its token expires and for `lifetime` at least. -/
def take (c : Cache) (lifetime : Int) (id : Text) (now expiry : Int) :
    Except Refusal Unit × Cache :=
  if id.isEmpty then (.error .missingId, c)
  else
    let swept := c.sweep now
    if swept.holds id then (.error .replayed, swept)
    else (.ok (), swept ++ [(id, max expiry (now + lifetime))])

/-- The entries in the order of their identifiers. -/
def sorted (c : Cache) : List (Text × Int) := c.mergeSort fun a b => Text.le a.1 b.1

end Cache
end SealedPost.Token
