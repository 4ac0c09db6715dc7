import EpochVoting.Bytes

/-!
# BLAKE2b

The unkeyed BLAKE2b hash with a 32-byte digest.  A message is cut into blocks of
128 bytes, the last one filled up with zeros; each block is compressed into the
eight-word chaining value together with the number of message bytes seen so far,
and the last block is marked as such.  The digest is the first half of the final
chaining value, each word with its least significant byte first.
-/

namespace EpochVoting
namespace Hash
namespace Blake2b

/-- The eight initial words: the fractional parts of the square roots of the
first eight primes. -/
def initial : Vector UInt64 8 :=
  #v[0x6a09e667f3bcc908, 0xbb67ae8584caa73b, 0x3c6ef372fe94f82b, 0xa54ff53a5f1d36f1,
    0x510e527fade682d1, 0x9b05688c2b3e6c1f, 0x1f83d9abfb41bd6b, 0x5be0cd19137e2179]

/-- The order in which each of the twelve rounds takes the sixteen words of the
block. -/
def schedule : List (Vector (Fin 16) 16) :=
  [#v[0, 1, 2, 3, 4, 5, 6, 7, 8, 9, 10, 11, 12, 13, 14, 15],
    #v[14, 10, 4, 8, 9, 15, 13, 6, 1, 12, 0, 2, 11, 7, 5, 3],
    #v[11, 8, 12, 0, 5, 2, 15, 13, 10, 14, 3, 6, 7, 1, 9, 4],
    #v[7, 9, 3, 1, 13, 12, 11, 14, 2, 6, 5, 10, 4, 0, 15, 8],
    #v[9, 0, 5, 7, 2, 4, 10, 15, 14, 1, 11, 12, 6, 8, 3, 13],
    #v[2, 12, 6, 10, 0, 11, 8, 3, 4, 13, 7, 5, 15, 14, 1, 9],
    #v[12, 5, 1, 15, 14, 13, 4, 10, 0, 7, 6, 3, 9, 2, 8, 11],
    #v[13, 11, 7, 14, 12, 1, 3, 9, 5, 0, 15, 4, 8, 6, 2, 10],
    #v[6, 15, 14, 9, 11, 3, 0, 8, 12, 2, 13, 7, 1, 4, 10, 5],
    #v[10, 2, 8, 4, 7, 6, 1, 5, 15, 11, 9, 14, 3, 12, 13, 0],
    #v[0, 1, 2, 3, 4, 5, 6, 7, 8, 9, 10, 11, 12, 13, 14, 15],
    #v[14, 10, 4, 8, 9, 15, 13, 6, 1, 12, 0, 2, 11, 7, 5, 3]]

/-- A word with its bits rotated to the right. -/
def rotateRight (x : UInt64) (amount : UInt64) : UInt64 :=
  (x >>> amount) ||| (x <<< (64 - amount))

/-- Two message words mixed into four words of the working vector. -/
def mix (v : Vector UInt64 16) (a b c d : Fin 16) (x y : UInt64) : Vector UInt64 16 :=
  let va := v[a] + v[b] + x
  let vd := rotateRight (v[d] ^^^ va) 32
  let vc := v[c] + vd
  let vb := rotateRight (v[b] ^^^ vc) 24
  let va := va + vb + y
  let vd := rotateRight (vd ^^^ va) 16
  let vc := vc + vd
  let vb := rotateRight (vb ^^^ vc) 63
  (((v.set a va).set b vb).set c vc).set d vd

/-- One round: the four columns, then the four diagonals. -/
def round (m : Vector UInt64 16) (v : Vector UInt64 16) (s : Vector (Fin 16) 16) :
    Vector UInt64 16 :=
  let v := mix v 0 4 8 12 m[s[0]] m[s[1]]
  let v := mix v 1 5 9 13 m[s[2]] m[s[3]]
  let v := mix v 2 6 10 14 m[s[4]] m[s[5]]
  let v := mix v 3 7 11 15 m[s[6]] m[s[7]]
  let v := mix v 0 5 10 15 m[s[8]] m[s[9]]
  let v := mix v 1 6 11 12 m[s[10]] m[s[11]]
  let v := mix v 2 7 8 13 m[s[12]] m[s[13]]
  mix v 3 4 9 14 m[s[14]] m[s[15]]

/-- The chaining value after a block, where `count` message bytes end with the
block and `last` tells whether it is the final one. -/
def compress (h : Vector UInt64 8) (m : Vector UInt64 16) (count : Nat) (last : Bool) :
    Vector UInt64 8 :=
  let v : Vector UInt64 16 := h ++ initial
  let v := v.set 12 (v[12] ^^^ UInt64.ofNat count)
  let v := v.set 13 (v[13] ^^^ UInt64.ofNat (count / UInt64.size))
  let v := if last then v.set 14 (~~~ v[14]) else v
  let v := schedule.foldl (round m) v
  Vector.ofFn fun i : Fin 8 => h[i] ^^^ v[i.val] ^^^ v[i.val + 8]

/-- The sixteen words of a block, filled up with zeros. -/
def blockWords (block : Bytes) : Vector UInt64 16 :=
  Vector.ofFn fun i => UInt64.ofNat (Bytes.toNat ((block.drop (8 * i.val)).take 8))

/-- The chaining value after `rest`, of which `count` bytes came before and which
takes at most `blocks + 1` blocks. -/
def absorb : (blocks : Nat) → Vector UInt64 8 → (count : Nat) → (rest : Bytes) →
    Vector UInt64 8
  | 0, h, count, rest => compress h (blockWords rest) (count + rest.length) true
  | blocks + 1, h, count, rest =>
    if rest.length ≤ 128 then
      compress h (blockWords rest) (count + rest.length) true
    else
      absorb blocks (compress h (blockWords (rest.take 128)) (count + 128) false)
        (count + 128) (rest.drop 128)

/-- The chaining value before the first block: the parameters are a digest of 32
bytes, no key, and a single leaf. -/
def seeded : Vector UInt64 8 :=
  initial.set 0 (initial[0] ^^^ 0x01010020)

/-- The 32-byte digest of a message. -/
def digest (message : Bytes) : Bytes :=
  let h := absorb (message.length / 128) seeded 0 message
  (h.toList.take 4).flatMap fun word => Bytes.littleEndian 8 word.toNat

theorem length_digest (message : Bytes) : (digest message).length = 32 := by
  have hword : ∀ words : List UInt64,
      (words.flatMap fun word => Bytes.littleEndian 8 word.toNat).length =
        8 * words.length := by
    intro words
    induction words with
    | nil => rfl
    | cons word rest ih =>
      rw [List.flatMap_cons, List.length_append, ih, Bytes.length_littleEndian,
        List.length_cons]
      omega
  simp [digest, hword]

end Blake2b
end Hash
end EpochVoting
