/-!
# Hash of a key that is one already

A hash that takes its key as it is. A word replaces the state; bytes are added to it one after the
other, the last byte first, each after the state was rotated by a byte. So the bytes of a word, the
least first, give the word itself.
-/
namespace PropertyGraph

/-- The state of the hash, a word. -/
structure KeyHash where
  /-- The hash so far. -/
  state : UInt64 := 0
deriving DecidableEq, Repr, Inhabited

namespace KeyHash

/-- A word rotated by one byte towards its high end. -/
def rotateByte (word : UInt64) : UInt64 :=
  (word <<< 8) ||| (word >>> 56)

/-- Adds a byte. -/
def addByte (hash : KeyHash) (byte : UInt8) : KeyHash :=
  ⟨rotateByte hash.state + byte.toUInt64⟩

/-- Adds bytes, the last one first. -/
def write (hash : KeyHash) (bytes : List UInt8) : KeyHash :=
  bytes.reverse.foldl addByte hash

/-- Replaces the state by a word. -/
def writeWord (_ : KeyHash) (word : UInt64) : KeyHash :=
  ⟨word⟩

end KeyHash

end PropertyGraph
