import MessagingGateway.Crypto.Chunks

/-!
# Encryption of requests

`AESCTRHelper` encrypts with AES in counter mode and authenticates the ciphertext and
the initialisation vector with an HMAC.
-/

namespace MessagingGateway.Crypto

/-- `cipher.NewCTR` as the bytes of its key stream, and HMAC-SHA256. -/
structure Primitives where
  keyStream : (key iv : Bytes) → Nat → Bytes
  hmac : (key data : Bytes) → Bytes
  keyStream_length : ∀ key iv n, (keyStream key iv n).length = n
  hmac_length : ∀ key data, (hmac key data).length = 32

structure AESCTRHelper where
  aesKey : Bytes
  hmacKey : Bytes

inductive CTRError
  | invalidKeySize (got : Nat)
  | tooShort
  | hmacMismatch
  deriving DecidableEq

namespace AESCTRHelper

variable (p : Primitives) (c : AESCTRHelper)

def xorKeyStream (iv source : Bytes) : Bytes :=
  List.zipWith (· ^^^ ·) source (p.keyStream c.aesKey iv source.length)

def validKeySize : Bool := c.aesKey.length == 16 || c.aesKey.length == 24 || c.aesKey.length == 32

/-- `Encrypt` with the vector `rand.Reader` gives. -/
def encrypt (iv plaintext : Bytes) : Except CTRError Bytes :=
  if c.validKeySize then
    let ciphertext := c.xorKeyStream p iv plaintext ++ iv
    .ok (ciphertext ++ p.hmac c.hmacKey ciphertext)
  else .error (.invalidKeySize c.aesKey.length)

def decrypt (encryptedData : Bytes) : Except CTRError Bytes :=
  if encryptedData.length < 48 then .error .tooShort
  else
    let hmacSignature := encryptedData.drop (encryptedData.length - 32)
    let withoutHMAC := encryptedData.take (encryptedData.length - 32)
    if hmacSignature ≠ p.hmac c.hmacKey withoutHMAC then .error .hmacMismatch
    else
      let iv := withoutHMAC.drop (withoutHMAC.length - 16)
      let ciphertext := withoutHMAC.take (withoutHMAC.length - 16)
      if c.validKeySize then .ok (c.xorKeyStream p iv ciphertext)
      else .error (.invalidKeySize c.aesKey.length)

variable {p c}

theorem xorKeyStream_length (iv source : Bytes) :
    (c.xorKeyStream p iv source).length = source.length := by
  simp [xorKeyStream, p.keyStream_length]

theorem xorKeyStream_twice (iv source : Bytes) :
    c.xorKeyStream p iv (c.xorKeyStream p iv source) = source := by
  have hlength := p.keyStream_length c.aesKey iv source.length
  rw [xorKeyStream, xorKeyStream_length, xorKeyStream]
  generalize p.keyStream c.aesKey iv source.length = stream at hlength
  refine List.ext_getElem (by simp [hlength]) fun i _ _ => ?_
  simp

/-- `Decrypt` accepts exactly what `Encrypt` makes of the plaintext it returns under
some vector of 16 bytes. -/
theorem decrypt_ok_iff {encryptedData plaintext : Bytes} :
    c.decrypt p encryptedData = .ok plaintext ↔
      ∃ iv : Bytes, iv.length = 16 ∧ c.encrypt p iv plaintext = .ok encryptedData := by
  constructor
  · intro h
    unfold decrypt at h
    split at h
    · cases h
    next hlong =>
    dsimp only at h
    split at h
    · cases h
    next hmac =>
    split at h
    · next hkey =>
      cases h
      generalize hbody : encryptedData.take (encryptedData.length - 32) = body at *
      have hlength : body.length = encryptedData.length - 32 := by simp [← hbody]
      refine ⟨body.drop (body.length - 16), by simp; omega, ?_⟩
      simp only [encrypt, if_pos hkey, xorKeyStream_twice, List.take_append_drop]
      rw [← not_not.1 hmac, ← hbody, List.take_append_drop]
    · cases h
  · rintro ⟨iv, hiv, h⟩
    unfold encrypt at h
    split at h
    · next hkey =>
      cases h
      have hbody : (c.xorKeyStream p iv plaintext ++ iv).length = plaintext.length + 16 := by
        simp [xorKeyStream_length, hiv]
      generalize hcipher : c.xorKeyStream p iv plaintext ++ iv = body at *
      have hlength := p.hmac_length c.hmacKey body
      rw [decrypt, if_neg (by simp only [List.length_append]; omega)]
      dsimp only
      rw [List.length_append, hlength, Nat.add_sub_cancel, List.take_left, List.drop_left,
        if_neg (by simp), if_pos hkey, hbody, Nat.add_sub_cancel, ← hcipher,
        List.take_left' (xorKeyStream_length _ _), List.drop_left' (xorKeyStream_length _ _),
        xorKeyStream_twice]
    · cases h

end AESCTRHelper

/-! ### A message -/

def checksum (data : Bytes) (start : Nat) : UInt8 :=
  data.foldl (fun sum b => 31 * sum + b) (UInt8.ofNat start)

/-- Checksums in the place of AES and SHA-256. -/
def checksums : Primitives where
  keyStream key iv n := (List.range n).map (checksum (key ++ iv))
  hmac key data := (List.range 32).map (checksum (key ++ data))
  keyStream_length _ _ _ := by simp
  hmac_length _ _ := by simp

def phoneHelper : AESCTRHelper := ⟨List.replicate 32 1, List.replicate 32 2⟩

/-- A message is read back, and refused once a byte of it has changed. -/
theorem phoneHelper_decrypts : ∃ encrypted,
    phoneHelper.encrypt checksums (List.replicate 16 3) "hello".toUTF8.data.toList = .ok encrypted ∧
      phoneHelper.decrypt checksums encrypted = .ok "hello".toUTF8.data.toList ∧
      phoneHelper.decrypt checksums (encrypted.set 2 0) = .error .hmacMismatch :=
  ⟨_, rfl, AESCTRHelper.decrypt_ok_iff.2 ⟨List.replicate 16 3, rfl, rfl⟩, by decide +kernel⟩

end MessagingGateway.Crypto
