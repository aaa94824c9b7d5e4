import AccessDecision.Digest.Sha2

set_option autoImplicit false

/-! # Keyed message digests

`Hmac.mac` signs a message with a secret key. A key longer than a block is replaced by its digest
and every key is filled up with zeros to a whole block, so a signature depends on the key only
through that block (`mac_eq_of_keyBlock_eq`). -/

namespace AccessDecision.Digest

/-- A digest function: what it computes, how it cuts its message, how long its result is. -/
structure Hash where
  digest : Bytes → Bytes
  blockSize : Nat
  size : Nat
  length_digest : ∀ message, (digest message).length = size

/-- A member of the SHA-2 family as a digest function. -/
def Sha2.hash {w : Nat} (v : Sha2 w) : Hash where
  digest := v.digest
  blockSize := Sha2.blockSize w
  size := v.size
  length_digest := v.length_digest

namespace Hmac

/-- A key as one block. -/
def keyBlock (h : Hash) (key : Bytes) : Bytes :=
  let short := if h.blockSize < key.length then h.digest key else key
  short ++ List.replicate (h.blockSize - short.length) 0

/-- The signature of a message under a key. -/
def mac (h : Hash) (key message : Bytes) : Bytes :=
  let block := keyBlock h key
  let inner := h.digest (block.map (· ^^^ 0x36) ++ message)
  h.digest (block.map (· ^^^ 0x5C) ++ inner)

@[simp] theorem length_mac (h : Hash) (key message : Bytes) : (mac h key message).length = h.size :=
  h.length_digest _

theorem mac_eq_of_keyBlock_eq (h : Hash) {key other : Bytes}
    (hkey : keyBlock h key = keyBlock h other) (message : Bytes) :
    mac h key message = mac h other message := by
  simp only [mac, hkey]

end Hmac

end AccessDecision.Digest
