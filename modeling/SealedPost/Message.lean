import SealedPost.Bytes

/-! # Messages

A message is a list of entries. Keys and values are bytes that may be encrypted; the kind
of an entry stays readable. -/

namespace SealedPost

/-- What the value of an entry is. -/
inductive Kind where
  | raw
  | text
  | file
deriving DecidableEq

/-- The kinds in the order in which they are listed to users. -/
def Kind.all : List Kind := [.raw, .text, .file]

/-- The word for a kind. -/
def Kind.name : Kind → Text
  | raw => "raw"
  | text => "text"
  | file => "file"

/-- The kind that a word stands for. -/
def Kind.ofName? (t : Text) : Option Kind := all.find? fun k => k.name = t

theorem Kind.ofName?_name (k : Kind) : Kind.ofName? k.name = some k := by
  cases k <;> rfl

/-- A key with its value and kind. -/
structure Entry where
  key : Bytes
  value : Bytes
  kind : Kind
deriving DecidableEq

/-- A list of entries. -/
structure Message where
  entries : List Entry
deriving DecidableEq

/-- Changes keys and values in order, each key before its value; the first failure wins. -/
def Message.mapBytes {ε : Type} (f : Bytes → Except ε Bytes) (m : Message) :
    Except ε Message := do
  let entries ← m.entries.mapM fun e => do
    let key ← f e.key
    let value ← f e.value
    pure { key := key, value := value, kind := e.kind : Entry }
  pure ⟨entries⟩

end SealedPost
