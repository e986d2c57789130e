import StreamServer.Shared.Framing

set_option autoImplicit false

-- The secure hash algorithm SHA-1 as FIPS 180-4 states it, on messages of whole bytes.
namespace Fips180

open Framing

abbrev Word := BitVec 32

def ch (x y z : Word) : Word := (x &&& y) ^^^ (~~~x &&& z)

def parity (x y z : Word) : Word := x ^^^ y ^^^ z

def maj (x y z : Word) : Word := (x &&& y) ^^^ (x &&& z) ^^^ (y &&& z)

def f (t : Nat) : Word → Word → Word → Word :=
  if t < 20 then ch else if t < 40 then parity else if t < 60 then maj else parity

def k (t : Nat) : Word :=
  if t < 20 then 0x5a827999
  else if t < 40 then 0x6ed9eba1
  else if t < 60 then 0x8f1bbcdc
  else 0xca62c1d6

def numberOf (bytes : List UInt8) : Nat := bytes.foldl (fun value byte => 256 * value + byte.toNat) 0

def zeros (length : Nat) : Nat := (55 + 64 - length % 64) % 64

def pad (message : List UInt8) : List UInt8 :=
  message ++ 0x80 :: (List.replicate (zeros message.length) 0 ++ bigEndian 8 (8 * message.length))

def block (padded : List UInt8) (i : Nat) : List UInt8 := (padded.drop (64 * i)).take 64

def messageWord (block : List UInt8) (t : Nat) : Word :=
  .ofNat 32 (numberOf ((block.drop (4 * t)).take 4))

def scheduleWord (block : List UInt8) (t : Nat) : Word :=
  if t < 16 then messageWord block t
  else
    (scheduleWord block (t - 3) ^^^ scheduleWord block (t - 8) ^^^ scheduleWord block (t - 14) ^^^
      scheduleWord block (t - 16)).rotateLeft 1
termination_by t

structure Vars where
  a : Word
  b : Word
  c : Word
  d : Word
  e : Word
deriving DecidableEq, Repr

def initial : Vars := ⟨0x67452301, 0xefcdab89, 0x98badcfe, 0x10325476, 0xc3d2e1f0⟩

def round (block : List UInt8) (t : Nat) (vars : Vars) : Vars :=
  { a := vars.a.rotateLeft 5 + f t vars.b vars.c vars.d + vars.e + k t + scheduleWord block t
    b := vars.a
    c := vars.b.rotateLeft 30
    d := vars.c
    e := vars.d }

def rounds (block : List UInt8) (vars : Vars) : Nat → Vars
  | 0 => vars
  | t + 1 => round block t (rounds block vars t)

def compress (hash : Vars) (block : List UInt8) : Vars :=
  let vars := rounds block hash 80
  ⟨hash.a + vars.a, hash.b + vars.b, hash.c + vars.c, hash.d + vars.d, hash.e + vars.e⟩

def hashAfter (padded : List UInt8) : Nat → Vars
  | 0 => initial
  | i + 1 => compress (hashAfter padded i) (block padded i)

def sha1 (message : List UInt8) : List UInt8 :=
  let hash := hashAfter (pad message) ((pad message).length / 64)
  [hash.a, hash.b, hash.c, hash.d, hash.e].flatMap fun word => bigEndian 4 word.toNat

section Padding

theorem pad_length (message : List UInt8) :
    (pad message).length = message.length + 1 + zeros message.length + 8 := by
  simp only [pad, List.length_append, List.length_cons, List.length_replicate, bigEndian_length]
  omega

theorem pad_whole (message : List UInt8) : 64 ∣ (pad message).length := by
  rw [pad_length]
  unfold zeros
  omega

end Padding

section Words

theorem numberOf_concat (bytes : List UInt8) (byte : UInt8) :
    numberOf (bytes ++ [byte]) = 256 * numberOf bytes + byte.toNat := by
  simp [numberOf]

end Words

end Fips180
