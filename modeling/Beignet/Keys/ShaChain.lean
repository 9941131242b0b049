import Beignet.Data.Basic

namespace Beignet.Keys

open Beignet.Data

def indexBits : Nat := 48
def maxIndex : Nat := 0xffffffffffff

/-- Flip one bit of a 32-byte secret, counted from the low bit of the first byte. -/
def flipBit (secret : Bytes) (bit : Nat) : Bytes :=
  secret.modify (bit / 8) fun byte => byte ^^^ Fin.ofNat 256 (2 ^ (bit % 8))

def bitsDown : List Nat := (List.range indexBits).reverse

def generateFromSeed (sha256 : Bytes → Bytes) (seed : Bytes) (index : Nat) : Bytes :=
  bitsDown.foldl (fun secret bit => if index.testBit bit then sha256 (flipBit secret bit) else secret)
    seed

def deriveChild (sha256 : Bytes → Bytes) (parent : Bytes) (fromIndex toIndex : Nat) : Bytes :=
  bitsDown.foldl (fun secret bit =>
    if !fromIndex.testBit bit && toIndex.testBit bit then sha256 (flipBit secret bit) else secret) parent

def canDerive (fromIndex toIndex : Nat) : Bool :=
  bitsDown.all fun bit => !(fromIndex.testBit bit && !toIndex.testBit bit)

structure ShaChainEntry where
  index : Nat
  secret : Bytes
  deriving DecidableEq, Repr

structure ShaChainStore where
  entries : List ShaChainEntry
  knownCount : Nat
  deriving DecidableEq, Repr

namespace ShaChainStore

def empty : ShaChainStore := ⟨[], 0⟩

/-- Nothing when the secret contradicts one already held. Secrets are 32 bytes on the wire. -/
def addSecret (sha256 : Bytes → Bytes) (store : ShaChainStore) (index : Nat) (secret : Bytes) :
    Option ShaChainStore :=
  if store.entries.all fun entry =>
      !canDerive index entry.index || deriveChild sha256 secret index entry.index == entry.secret then
    some
      { entries := store.entries.filter (fun entry => !canDerive index entry.index) ++ [⟨index, secret⟩]
        knownCount := store.knownCount + 1 }
  else none

def getSecret (sha256 : Bytes → Bytes) (store : ShaChainStore) (index : Nat) : Option Bytes :=
  (store.entries.find? fun entry => canDerive entry.index index).map fun entry =>
    deriveChild sha256 entry.secret entry.index index

end ShaChainStore

end Beignet.Keys
