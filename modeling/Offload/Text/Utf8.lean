/-!
# Octets as text

Texts that cross the boundary arrive as octets. An octet sequence splits into the characters it
encodes and the stretches that encode none. A stretch is as long as it could still have been the
start of a character: it ends before the octet that rules every continuation out, or at the end of
the sequence.
-/

namespace Offload.Utf8

/-- A piece of an octet sequence. -/
inductive Chunk where
  /-- A well-formed character. -/
  | character (character : Char)
  /-- Octets that no character starts with, followed by the octet that ruled them out. -/
  | malformed (length : Nat)
  /-- The start of a character at the end of the sequence. -/
  | truncated (length : Nat)
  deriving DecidableEq, Repr

/-- Where the reader stands between octets: between characters, or inside one, with the octets
taken, the bits they gave, the octets still owed and the bounds of the next one. -/
inductive State where
  | between
  | inside (taken value owed low high : Nat)
  deriving DecidableEq, Repr

/-- What the first octet of a longer character says: its bits, the octets that follow and the
bounds of the next. The bounds exclude overlong forms, surrogates and numbers past the last code
point. -/
def lead? (octet : Nat) : Option (Nat × Nat × Nat × Nat) :=
  if octet < 0xc2 then none
  else if octet ≤ 0xdf then some (octet - 0xc0, 1, 0x80, 0xbf)
  else if octet = 0xe0 then some (0, 2, 0xa0, 0xbf)
  else if octet = 0xed then some (0xd, 2, 0x80, 0x9f)
  else if octet ≤ 0xef then some (octet - 0xe0, 2, 0x80, 0xbf)
  else if octet = 0xf0 then some (0, 3, 0x90, 0xbf)
  else if octet ≤ 0xf3 then some (octet - 0xf0, 3, 0x80, 0xbf)
  else if octet = 0xf4 then some (4, 3, 0x80, 0x8f)
  else none

/-- Reads an octet between characters. -/
def start (octet : Nat) : List Chunk × State :=
  if octet < 0x80 then ([.character (Char.ofNat octet)], .between)
  else
    match lead? octet with
    | some (value, owed, low, high) => ([], .inside 1 value owed low high)
    | none => ([.malformed 1], .between)

/-- Reads one octet. -/
def step : State → Nat → List Chunk × State
  | .between, octet => start octet
  | .inside taken value owed low high, octet =>
    if low ≤ octet ∧ octet ≤ high then
      let value := 64 * value + octet % 64
      if owed ≤ 1 then ([.character (Char.ofNat value)], .between)
      else ([], .inside (taken + 1) value (owed - 1) 0x80 0xbf)
    else
      let (chunks, next) := start octet
      (.malformed taken :: chunks, next)

/-- The chunks of a sequence, read on from a state. -/
def chunksFrom : State → List UInt8 → List Chunk
  | .between, [] => []
  | .inside taken _ _ _ _, [] => [.truncated taken]
  | state, octet :: rest =>
    let (chunks, next) := step state octet.toNat
    chunks ++ chunksFrom next rest

/-- The chunks of a sequence. -/
def chunks (octets : List UInt8) : List Chunk := chunksFrom .between octets

/-- Where a sequence stops being text: the index of the first stretch that is no character, and
its length unless the sequence just ends too early. -/
structure Defect where
  index : Nat
  length : Option Nat
  deriving DecidableEq, Repr

/-- The sentence that describes a defect. -/
def Defect.message (defect : Defect) : String :=
  match defect.length with
  | some length => s!"invalid utf-8 sequence of {length} bytes from index {defect.index}"
  | none => s!"incomplete utf-8 byte sequence from index {defect.index}"

/-- Joins the characters of chunks that start at `index`, up to the first defect. -/
def joinFrom (index : Nat) : List Chunk → Except Defect (List Char)
  | [] => .ok []
  | .character character :: rest =>
    (joinFrom (index + character.utf8Size) rest).map (character :: ·)
  | .malformed length :: _ => .error ⟨index, some length⟩
  | .truncated _ :: _ => .error ⟨index, none⟩

/-- The text that octets encode. -/
def decode (octets : List UInt8) : Except Defect String :=
  (joinFrom 0 (chunks octets)).map String.ofList

/-- The text of octets with a replacement character for every stretch that encodes none. -/
def decodeLossy (octets : List UInt8) : String :=
  String.ofList <| (chunks octets).map fun chunk =>
    match chunk with
    | .character character => character
    | _ => '\ufffd'

/-- The octets of a text up to its first null, as a reader of null-terminated text sees them. -/
def untilNull (octets : List UInt8) : List UInt8 := octets.takeWhile (· != 0)

end Offload.Utf8
