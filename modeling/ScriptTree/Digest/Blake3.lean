import ScriptTree.Json.Writer
import ScriptTree.Text.Digits
/-!
# BLAKE3 and fingerprints

The BLAKE3 hash of a byte sequence, with the standard output length of 32 bytes. The fingerprint of
a value is the hash of its compact JSON text, so it depends on the order of fields.

The input is cut into chunks of 1024 bytes, and a chunk into blocks of 64 bytes. Each chunk is
compressed block by block into a chaining value; the chaining values of neighbours are compressed
into that of their parent, level by level, until one node is left. That node, a lone chunk or the
parent of the last two values, is compressed as the root.
-/

namespace ScriptTree.Blake3

/-! ## Compression -/

/-- The eight words that a node passes on. -/
abbrev Chaining := Vector UInt32 8

/-- The sixteen words of a message block or of the working state. -/
abbrev Block := Vector UInt32 16

/-- The initial chaining value. -/
def initial : Chaining :=
  #v[0x6a09e667, 0xbb67ae85, 0x3c6ef372, 0xa54ff53a, 0x510e527f, 0x9b05688c, 0x1f83d9ab, 0x5be0cd19]

/-- The order in which the next round takes the message words. -/
def permutation : Vector (Fin 16) 16 :=
  #v[2, 6, 3, 10, 7, 0, 4, 13, 1, 11, 12, 5, 9, 14, 15, 8]

/-- The flags that tell the places of a block apart. -/
structure Flags where
  chunkStart : Bool := false
  chunkEnd : Bool := false
  parent : Bool := false
  root : Bool := false

/-- The word that flags are passed as. -/
def Flags.word (flags : Flags) : UInt32 :=
  (if flags.chunkStart then 1 else 0) + (if flags.chunkEnd then 2 else 0) +
    (if flags.parent then 4 else 0) + (if flags.root then 8 else 0)

/-- A word turned to the right. -/
def rotateRight (word count : UInt32) : UInt32 :=
  (word >>> count) ||| (word <<< (32 - count))

/-- Mixes two message words into four words of the state. -/
def mix (state : Block) (a b c d : Fin 16) (x y : UInt32) : Block :=
  let state := state.set a (state[a] + state[b] + x)
  let state := state.set d (rotateRight (state[d] ^^^ state[a]) 16)
  let state := state.set c (state[c] + state[d])
  let state := state.set b (rotateRight (state[b] ^^^ state[c]) 12)
  let state := state.set a (state[a] + state[b] + y)
  let state := state.set d (rotateRight (state[d] ^^^ state[a]) 8)
  let state := state.set c (state[c] + state[d])
  state.set b (rotateRight (state[b] ^^^ state[c]) 7)

/-- Mixes a whole message into the columns and the diagonals of the state. -/
def round (state message : Block) : Block :=
  let state := mix state 0 4 8 12 message[0] message[1]
  let state := mix state 1 5 9 13 message[2] message[3]
  let state := mix state 2 6 10 14 message[4] message[5]
  let state := mix state 3 7 11 15 message[6] message[7]
  let state := mix state 0 5 10 15 message[8] message[9]
  let state := mix state 1 6 11 12 message[10] message[11]
  let state := mix state 2 7 8 13 message[12] message[13]
  mix state 3 4 9 14 message[14] message[15]

/-- The given number of rounds, with the message rearranged after each. -/
def rounds : Nat → Block → Block → Block
  | 0, state, _ => state
  | n + 1, state, message =>
    rounds n (round state message) (permutation.map fun index => message[index])

/-- The chaining value of a node: a block of `length` bytes under the value of what came before. -/
def compress (chaining : Chaining) (message : Block) (counter : UInt64) (length : UInt32)
    (flags : Flags) : Chaining :=
  let start : Block := chaining ++
    #v[initial[0], initial[1], initial[2], initial[3], counter.toUInt32,
      (counter >>> 32).toUInt32, length, flags.word]
  let state := rounds 7 start message
  Vector.ofFn fun (i : Fin 8) => state[i] ^^^ state[i.val + 8]

/-! ## Chunks -/

/-- The number of bytes in a block. -/
def blockSize : Nat := 64

/-- The number of bytes in a chunk. -/
def chunkSize : Nat := 1024

/-- The number of pieces of a size that bytes are cut into: at least one, and none but the last of
them shorter than the size. -/
def pieces (size count : Nat) : Nat :=
  max 1 ((count + size - 1) / size)

/-- The byte at a position, zero behind the end. -/
def byte (bytes : ByteArray) (position : Nat) : UInt32 :=
  (bytes[position]?.getD 0).toUInt32

/-- The message words of the block that starts at a position of the bytes. -/
def message (bytes : ByteArray) (start : Nat) : Block :=
  Vector.ofFn fun (i : Fin 16) =>
    let position := start + 4 * i.val
    byte bytes position ||| (byte bytes (position + 1) <<< 8) |||
      (byte bytes (position + 2) <<< 16) ||| (byte bytes (position + 3) <<< 24)

/-- The chaining value of one chunk, which is the root when it is the whole input. -/
def chunk (bytes : ByteArray) (counter : Nat) (isRoot : Bool) : Chaining :=
  let blocks := pieces blockSize bytes.size
  (List.range blocks).foldl (fun chaining index =>
    let start := index * blockSize
    let last := index + 1 == blocks
    compress chaining (message bytes start) (UInt64.ofNat counter)
      (UInt32.ofNat (min blockSize (bytes.size - start)))
      ⟨index == 0, last, false, last && isRoot⟩) initial

/-! ## The tree -/

/-- The chaining value of the parent of two nodes. -/
def parent (left right : Chaining) (isRoot : Bool) : Chaining :=
  compress initial (left ++ right) 0 64 ⟨false, false, true, isRoot⟩

/-- The next level of the tree: the parents of neighbours. A node without a neighbour moves up. -/
def level : List Chaining → List Chaining
  | left :: right :: rest => parent left right false :: level rest
  | rest => rest

theorem length_level : ∀ nodes : List Chaining, (level nodes).length = (nodes.length + 1) / 2
  | [] => rfl
  | [_] => by simp [level]
  | _ :: _ :: rest => by
    simp only [level, List.length_cons, length_level rest]
    omega

/-- The chaining value of the root over a level of the tree. -/
def root : List Chaining → Chaining
  | [] => initial
  | [node] => node
  | [left, right] => parent left right true
  | a :: b :: c :: rest => root (level (a :: b :: c :: rest))
termination_by nodes => nodes.length
decreasing_by simp only [length_level, List.length_cons]; omega

/-- The hash of a byte sequence, as eight words. -/
def hash (bytes : ByteArray) : Chaining :=
  let chunks := pieces chunkSize bytes.size
  if chunks = 1 then chunk bytes 0 true
  else
    root ((List.range chunks).map fun index =>
      chunk (bytes.extract (index * chunkSize) ((index + 1) * chunkSize)) index false)

/-- The hexadecimal digits of a hash, byte by byte. -/
def hex (words : Chaining) : String :=
  String.ofList (words.toList.flatMap fun (word : UInt32) =>
    [word, word >>> 8, word >>> 16, word >>> 24].flatMap fun byte =>
      Digits.padded 2 (Digits.hex (byte &&& 0xff).toNat))

/-- The published hash of the three bytes that count up from zero. -/
example : hex (hash ⟨#[0, 1, 2]⟩) =
    "e1be4d7a8ab5560aa4199eea339849ba8e293d55ca0a81006726d184519e647f" := by decide +kernel

end ScriptTree.Blake3

namespace ScriptTree

/-! ## Fingerprints -/

/-- The fingerprint of a value, as 64 hexadecimal digits. -/
def Json.fingerprint (value : Json) : String :=
  Blake3.hex (Blake3.hash value.compact.toUTF8)

/-- The first twelve digits of a fingerprint. -/
def shortFingerprint (fingerprint : String) : String :=
  String.ofList (fingerprint.toList.take 12)

end ScriptTree
