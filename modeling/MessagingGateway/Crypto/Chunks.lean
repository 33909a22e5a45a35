import Mathlib

/-!
# Chunked encryption of media

`EncryptData` seals a byte string in chunks of 32 KiB, each under its index and a
flag for the last one; `DecryptData` cuts by the chunk size the second byte names.
AES-GCM under a key of 32 bytes is the parameter `Gcm`. Lengths stay far below
`2 ^ 53`, so the quotients the source takes in floating point are exact.
-/

namespace MessagingGateway.Crypto

abbrev Bytes := List UInt8

/-- `cipher.AEAD` of `cipher.NewGCM` under one key: `Seal` appends a tag of 16 bytes
and `Open` inverts it. -/
structure Gcm where
  seals : (nonce aad plaintext : Bytes) → Bytes
  opens : (nonce aad ciphertext : Bytes) → Option Bytes
  seals_length : ∀ nonce aad plaintext, (seals nonce aad plaintext).length = plaintext.length + 16
  opens_seals : ∀ nonce aad plaintext, opens nonce aad (seals nonce aad plaintext) = some plaintext

/-- An ideal cipher: what opens was sealed, and it tells associated data of five bytes
apart. -/
structure Gcm.Ideal (gcm : Gcm) : Prop where
  sealed : ∀ {nonce aad ciphertext plaintext : Bytes},
    gcm.opens nonce aad ciphertext = some plaintext → ciphertext = gcm.seals nonce aad plaintext
  apart : ∀ {nonce aad aad' plaintext plaintext' : Bytes}, aad.length = 5 → aad'.length = 5 →
    gcm.seals nonce aad plaintext = gcm.seals nonce aad' plaintext' → aad = aad'

/-- `AESGCMHelper`, as `NewAESGCMHelper` makes it. -/
structure AESGCMHelper where
  key : Bytes
  gcm : Gcm
  key_length : key.length = 32

inductive Stop
  | panicked
  | invalidSignature (got : UInt8)
  | invalidLength (chunkIndex : UInt32) (got : Nat)
  | unauthenticated (chunkIndex : UInt32)
  deriving DecidableEq

def calculateAAD (index : UInt32) (isLastChunk : Bool) : Bytes :=
  [if isLastChunk then 1 else 0, (index >>> 24).toUInt8, (index >>> 16).toUInt8,
    (index >>> 8).toUInt8, index.toUInt8]

/-- The loop of both directions, over the data that is left. It cuts chunks of
`chunkSize` bytes and gives the last one the rest; `n` chunks are done. A negative size
does not make a slice. -/
def eachChunk (chunkSize : Int) (body : Nat → Bool → Bytes → Except Stop Bytes) :
    (fuel : Nat) → (n : Nat) → Bytes → Except Stop Bytes
  | 0, _, _ => .ok []
  | fuel + 1, n, rest =>
    if rest = [] then .ok []
    else if rest.length ≤ chunkSize then body n true rest
    else if chunkSize < 0 then .error .panicked
    else do
      let chunk ← body n false (rest.take chunkSize.toNat)
      let chunks ← eachChunk chunkSize body fuel (n + 1) (rest.drop chunkSize.toNat)
      pure (chunk ++ chunks)

namespace AESGCMHelper

def encryptChunk (c : AESGCMHelper) (nonce data aad : Bytes) : Bytes :=
  nonce ++ c.gcm.seals nonce aad data

def decryptChunk (c : AESGCMHelper) (chunkIndex : UInt32) (data aad : Bytes) : Except Stop Bytes :=
  if data.length < 12 then .error (.invalidLength chunkIndex data.length)
  else match c.gcm.opens (data.take 12) aad (data.drop 12) with
    | none => .error (.unauthenticated chunkIndex)
    | some plaintext => .ok plaintext

def outgoingRawChunkSize : Nat := 2 ^ 15

abbrev Nonces := Nat → { nonce : Bytes // nonce.length = 12 }

def encryptNumbered (c : AESGCMHelper) (nonces : Nonces) (n : Nat) (isLastChunk : Bool)
    (chunk : Bytes) : Except Stop Bytes :=
  .ok (c.encryptChunk (nonces n) chunk (calculateAAD (.ofNat n) isLastChunk))

def encryptData (c : AESGCMHelper) (nonces : Nonces) (data : Bytes) : Except Stop Bytes := do
  let chunks ← eachChunk (outgoingRawChunkSize - 28 : Nat) (c.encryptNumbered nonces) data.length 0
    data
  pure (0 :: 15 :: chunks)

def shiftedOne (b : UInt8) : Int :=
  if b.toNat < 63 then 2 ^ b.toNat else if b.toNat = 63 then -2 ^ 63 else 0

/-- What the capacity of the result takes off the length, 28 bytes a chunk. For a
negative size the quotient rounds up to zero, and for the size zero it is infinite and
converts to the least integer, of which 28 times is zero modulo `2 ^ 64`. -/
def chunkOverheads (length : Nat) (chunkSize : Int) : Nat :=
  if chunkSize ≤ 0 then 0 else 28 * ((length + chunkSize.toNat - 1) / chunkSize.toNat)

def decryptNumbered (c : AESGCMHelper) (n : Nat) (isLastChunk : Bool) (chunk : Bytes) :
    Except Stop Bytes :=
  c.decryptChunk (.ofNat n) chunk (calculateAAD (.ofNat n) isLastChunk)

def decryptData (c : AESGCMHelper) (encryptedData : Bytes) : Except Stop Bytes :=
  if encryptedData.length = 0 ∨ c.key.length ≠ 32 then .ok encryptedData
  else match encryptedData with
    | [] => .ok []
    | signature :: rest =>
      if signature ≠ 0 then .error (.invalidSignature signature)
      else match rest with
        | [] => .error .panicked
        | shift :: rest =>
          -- a negative capacity does not make a slice
          if rest.length < chunkOverheads rest.length (shiftedOne shift) then .error .panicked
          else eachChunk (shiftedOne shift) c.decryptNumbered rest.length 0 rest

/-! ### Sealed chunks -/

def SealedAs (c : AESGCMHelper) (n : Nat) (isLastChunk : Bool) (chunk plaintext : Bytes) : Prop :=
  ∃ nonce : Bytes, nonce.length = 12 ∧
    chunk = c.encryptChunk nonce plaintext (calculateAAD (.ofNat n) isLastChunk)

/-- Chunks sealed from number `n` on, exactly the last one as last, with the
concatenation of their plaintexts. -/
inductive Chunked (c : AESGCMHelper) (size : Nat) : Nat → List Bytes → Bytes → Prop
  | last {n : Nat} {chunk plaintext : Bytes} (fits : chunk.length ≤ size)
      (sealed : c.SealedAs n true chunk plaintext) : Chunked c size n [chunk] plaintext
  | more {n : Nat} {chunk plaintext plaintexts : Bytes} {chunks : List Bytes}
      (full : chunk.length = size) (sealed : c.SealedAs n false chunk plaintext)
      (rest : Chunked c size (n + 1) chunks plaintexts) :
      Chunked c size n (chunk :: chunks) (plaintext ++ plaintexts)

variable {c : AESGCMHelper} {n size : Nat} {isLastChunk : Bool} {chunk plaintext data : Bytes}
  {chunks : List Bytes}

theorem encryptChunk_length {nonce : Bytes} (h : nonce.length = 12) (data aad : Bytes) :
    (c.encryptChunk nonce data aad).length = data.length + 28 := by
  rw [encryptChunk, List.length_append, h, c.gcm.seals_length]
  omega

theorem SealedAs.length (h : c.SealedAs n isLastChunk chunk plaintext) :
    chunk.length = plaintext.length + 28 := by
  obtain ⟨nonce, hnonce, rfl⟩ := h
  exact encryptChunk_length hnonce _ _

theorem SealedAs.decrypt (h : c.SealedAs n isLastChunk chunk plaintext) :
    c.decryptNumbered n isLastChunk chunk = .ok plaintext := by
  have hlength := h.length
  obtain ⟨nonce, hnonce, rfl⟩ := h
  rw [decryptNumbered, decryptChunk, if_neg (by omega), encryptChunk, List.take_left' hnonce,
    List.drop_left' hnonce, c.gcm.opens_seals]

theorem sealedAs_of_decrypt (hideal : c.gcm.Ideal)
    (h : c.decryptNumbered n isLastChunk chunk = .ok plaintext) :
    c.SealedAs n isLastChunk chunk plaintext := by
  unfold decryptNumbered decryptChunk at h
  split at h
  · cases h
  · next hlength =>
    split at h
    · cases h
    · next opened hopened =>
      cases h
      refine ⟨chunk.take 12, by rw [List.length_take]; omega, ?_⟩
      rw [encryptChunk, ← hideal.sealed hopened, List.take_append_drop]

theorem calculateAAD_inj {index index' : UInt32} {isLastChunk' : Bool}
    (h : calculateAAD index isLastChunk = calculateAAD index' isLastChunk') :
    index = index' ∧ isLastChunk = isLastChunk' := by
  simp only [calculateAAD, List.cons.injEq, and_true] at h
  obtain ⟨hlast, h₁, h₂, h₃, h₄⟩ := h
  refine ⟨?_, by revert hlast; cases isLastChunk <;> cases isLastChunk' <;> decide⟩
  rw [← UInt8.toNat_inj] at h₁ h₂ h₃ h₄
  simp only [UInt32.toNat_toUInt8, UInt32.toNat_shiftRight, Nat.shiftRight_eq_div_pow]
    at h₁ h₂ h₃ h₄
  have hlt := index.toNat_lt
  have hlt' := index'.toNat_lt
  apply UInt32.toNat_inj.1
  simp at h₁ h₂ h₃ h₄
  omega

theorem SealedAs.unique (hideal : c.gcm.Ideal) {m : Nat} {isLastChunk' : Bool} {plaintext' : Bytes}
    (h : c.SealedAs n isLastChunk chunk plaintext)
    (h' : c.SealedAs m isLastChunk' chunk plaintext') :
    n % 2 ^ 32 = m % 2 ^ 32 ∧ isLastChunk = isLastChunk' := by
  obtain ⟨nonce, hnonce, rfl⟩ := h
  obtain ⟨nonce', hnonce', heq⟩ := h'
  obtain ⟨rfl, heq⟩ := List.append_inj heq (hnonce.trans hnonce'.symm)
  obtain ⟨hindex, hlast⟩ := calculateAAD_inj (hideal.apart rfl rfl heq)
  rw [← UInt32.toNat_inj, UInt32.toNat_ofNat', UInt32.toNat_ofNat'] at hindex
  exact ⟨hindex, hlast⟩

/-! ### The loop -/

section

variable {body : Nat → Bool → Bytes → Except Stop Bytes} {fuel : Nat}

theorem eachChunk_last (hne : data ≠ []) (hfits : data.length ≤ size) :
    eachChunk size body (fuel + 1) n data = body n true data := by
  rw [eachChunk, if_neg hne, if_pos (by omega)]

theorem eachChunk_more (hlong : size < data.length) :
    eachChunk size body (fuel + 1) n data = .ok plaintext ↔
      ∃ first others, body n false (data.take size) = .ok first ∧
        eachChunk size body fuel (n + 1) (data.drop size) = .ok others ∧
        plaintext = first ++ others := by
  have hne : data ≠ [] := fun h => by simp [h] at hlong
  rw [eachChunk, if_neg hne, if_neg (by omega), if_neg (by omega), Int.toNat_natCast]
  cases hfirst : body n false (data.take size) with
  | error e => simp [bind, Except.bind]
  | ok first =>
    cases eachChunk size body fuel (n + 1) (data.drop size) with
    | error e => simp [bind, Except.bind]
    | ok others => simp [bind, Except.bind, pure, Except.pure, eq_comm]

end

theorem Chunked.flatten_length (h : Chunked c size n chunks plaintext) :
    28 ≤ chunks.flatten.length ∧ 28 ≤ size := by
  cases h with
  | last hfits hsealed =>
    have hlength := hsealed.length
    rw [List.flatten_singleton]
    omega
  | more hfull hsealed _ =>
    have hlength := hsealed.length
    rw [List.flatten_cons, List.length_append]
    omega

theorem Chunked.decrypt (h : Chunked c size n chunks plaintext) {fuel : Nat}
    (hfuel : chunks.flatten.length ≤ fuel) :
    eachChunk size c.decryptNumbered fuel n chunks.flatten = .ok plaintext := by
  induction h generalizing fuel with
  | last hfits hsealed =>
    have hlength := hsealed.length
    rw [List.flatten_singleton] at hfuel ⊢
    obtain ⟨fuel, rfl⟩ : ∃ k, fuel = k + 1 := ⟨fuel - 1, by omega⟩
    rw [eachChunk_last (by rintro rfl; simp at hlength) hfits]
    exact hsealed.decrypt
  | @more n chunk plaintext plaintexts chunks hfull hsealed hrest ih =>
    have hlength := hsealed.length
    have hnext := hrest.flatten_length.1
    rw [List.flatten_cons] at hfuel ⊢
    rw [List.length_append] at hfuel
    obtain ⟨fuel, rfl⟩ : ∃ k, fuel = k + 1 := ⟨fuel - 1, by omega⟩
    rw [eachChunk_more (by rw [List.length_append]; omega), List.take_left' hfull,
      List.drop_left' hfull]
    exact ⟨_, _, hsealed.decrypt, ih (by omega), rfl⟩

theorem chunked_of_decrypt (hideal : c.gcm.Ideal) {fuel : Nat} (hne : data ≠ [])
    (hfuel : data.length ≤ fuel)
    (h : eachChunk size c.decryptNumbered fuel n data = .ok plaintext) :
    ∃ chunks, data = chunks.flatten ∧ Chunked c size n chunks plaintext := by
  induction fuel generalizing n data plaintext with
  | zero => exact absurd (List.length_eq_zero_iff.1 (Nat.le_zero.1 hfuel)) hne
  | succ fuel ih =>
    by_cases hfits : data.length ≤ size
    · rw [eachChunk_last hne hfits] at h
      exact ⟨[data], (List.flatten_singleton ..).symm, .last hfits (sealedAs_of_decrypt hideal h)⟩
    · obtain ⟨first, others, hfirst, hothers, rfl⟩ := (eachChunk_more (by omega)).1 h
      have hsealed := sealedAs_of_decrypt hideal hfirst
      have hfull : (data.take size).length = size := by
        rw [List.length_take]
        omega
      have hlength := hsealed.length
      obtain ⟨chunks, hdata, hchunked⟩ := ih
        (by rw [← List.length_pos_iff, List.length_drop]; omega)
        (by rw [List.length_drop]; omega) hothers
      refine ⟨data.take size :: chunks, ?_, .more hfull hsealed hchunked⟩
      rw [List.flatten_cons, ← hdata, List.take_append_drop]

theorem encrypt_chunked (nonces : Nonces) {fuel : Nat} (hne : data ≠ [])
    (hfuel : data.length ≤ fuel) :
    ∃ chunks, eachChunk (outgoingRawChunkSize - 28 : Nat) (c.encryptNumbered nonces) fuel n data =
        .ok chunks.flatten ∧ Chunked c outgoingRawChunkSize n chunks data ∧
      chunks.flatten.length = data.length + 28 * ((data.length + 32739) / 32740) := by
  have hsize : outgoingRawChunkSize = 32768 := rfl
  have hpos := List.length_pos_iff.2 hne
  induction fuel generalizing n data with
  | zero => omega
  | succ fuel ih =>
    have hsealed (isLastChunk : Bool) (chunk : Bytes) : c.SealedAs n isLastChunk
        (c.encryptChunk (nonces n) chunk (calculateAAD (.ofNat n) isLastChunk)) chunk :=
      ⟨nonces n, (nonces n).2, rfl⟩
    by_cases hfits : data.length ≤ outgoingRawChunkSize - 28
    · have hlength := (hsealed true data).length
      refine ⟨[_], ?_, .last ?_ (hsealed true data), ?_⟩
      · rw [eachChunk_last hne hfits, List.flatten_singleton]
        rfl
      · omega
      · rw [List.flatten_singleton]
        omega
    · have hlong : outgoingRawChunkSize - 28 < data.length := by omega
      have hlength := (hsealed false (data.take (outgoingRawChunkSize - 28))).length
      rw [List.length_take] at hlength
      have hdrop : (data.drop (outgoingRawChunkSize - 28)).length = data.length - 32740 := by
        rw [List.length_drop, hsize]
      have hne' : data.drop (outgoingRawChunkSize - 28) ≠ [] := by
        rw [← List.length_pos_iff]
        omega
      obtain ⟨chunks, hchunks, hchunked, htotal⟩ := ih (n := n + 1) hne' (by omega) (by omega)
      have hfull := hlength.trans (show _ = outgoingRawChunkSize by omega)
      refine ⟨_ :: chunks, (eachChunk_more hlong).2 ⟨_, _, rfl, hchunks, rfl⟩, ?_, ?_⟩
      · have hmore := Chunked.more hfull (hsealed false _) hchunked
        rwa [List.take_append_drop] at hmore
      · rw [List.flatten_cons, List.length_append]
        omega

/-! ### Round trips -/

theorem decryptData_header (shift : UInt8) (rest : Bytes) :
    c.decryptData (0 :: shift :: rest) =
      if rest.length < chunkOverheads rest.length (shiftedOne shift) then .error .panicked
      else eachChunk (shiftedOne shift) c.decryptNumbered rest.length 0 rest := by
  simp [decryptData, c.key_length]

theorem encryptData_ok (nonces : Nonces) (data : Bytes) :
    ∃ encrypted, c.encryptData nonces data = .ok encrypted ∧
      c.decryptData encrypted = .ok data ∧
      encrypted.length = 2 + data.length + 28 * ((data.length + 32739) / 32740) := by
  by_cases hne : data = []
  · subst hne
    refine ⟨[0, 15], rfl, ?_, rfl⟩
    rw [decryptData_header]
    rfl
  · obtain ⟨chunks, hchunks, hchunked, hlength⟩ := encrypt_chunked nonces hne (Nat.le_refl _)
    refine ⟨0 :: 15 :: chunks.flatten, by rw [encryptData, hchunks]; rfl, ?_, ?_⟩
    · have hoverheads : chunkOverheads chunks.flatten.length (shiftedOne 15) =
          28 * ((chunks.flatten.length + 32767) / 32768) := rfl
      rw [decryptData_header, if_neg (by omega)]
      exact hchunked.decrypt (Nat.le_refl _)
    · simp only [List.length_cons]
      omega

/-- What is encrypted decrypts under the same key. -/
theorem decryptData_encryptData (c : AESGCMHelper) (nonces : Nonces) (data : Bytes) :
    (c.encryptData nonces data).bind c.decryptData = .ok data := by
  obtain ⟨encrypted, hencrypted, hdecrypted, -⟩ := c.encryptData_ok nonces data
  rw [hencrypted]
  exact hdecrypted

/-! ### Tampering -/

/-- A two-byte header and at least one sealed chunk. -/
def WellFormed (c : AESGCMHelper) (encryptedData plaintext : Bytes) : Prop :=
  ∃ (shift : UInt8) (chunks : List Bytes), encryptedData = 0 :: shift :: chunks.flatten ∧
    Chunked c (2 ^ shift.toNat) 0 chunks plaintext

/-- The call returns an error, or the plaintext of a well-formed string. -/
def Safe (c : AESGCMHelper) (encryptedData : Bytes) : Prop :=
  c.decryptData encryptedData ≠ .error .panicked ∧
    ∀ plaintext, c.decryptData encryptedData = .ok plaintext → c.WellFormed encryptedData plaintext

/-- The string has a wrong signature, or a header of a usable size and enough bytes
for the tags and nonces of its chunks. -/
def Decryptable (encryptedData : Bytes) : Prop :=
  match encryptedData with
  | [] => False
  | signature :: rest => signature ≠ 0 ∨
      match rest with
      | [] => False
      | shift :: rest => rest ≠ [] ∧ shift ≠ 63 ∧
          chunkOverheads rest.length (shiftedOne shift) ≤ rest.length

theorem decryptChunk_ne_panicked (n : Nat) (isLastChunk : Bool) (chunk : Bytes) :
    c.decryptNumbered n isLastChunk chunk ≠ .error .panicked := by
  unfold decryptNumbered decryptChunk
  split
  · simp
  · split <;> simp

theorem eachChunk_ne_panicked (fuel : Nat) :
    eachChunk size c.decryptNumbered fuel n data ≠ .error .panicked := by
  induction fuel generalizing n data with
  | zero => simp [eachChunk]
  | succ fuel ih =>
    rw [eachChunk]
    split
    · simp
    split
    · exact decryptChunk_ne_panicked n true data
    rw [if_neg (by omega)]
    cases hfirst : c.decryptNumbered n false (data.take (size : Int).toNat) with
    | error stop => exact fun h => decryptChunk_ne_panicked n false _ (hfirst.trans h)
    | ok first =>
      cases hrest : eachChunk size c.decryptNumbered fuel (n + 1)
          (data.drop (size : Int).toNat) with
      | error stop => exact fun h => ih (hrest.trans h)
      | ok others => simp [bind, Except.bind, pure, Except.pure]

theorem shiftedOne_of_ne {shift : UInt8} (h : shift ≠ 63) :
    ∃ size : Nat, shiftedOne shift = size ∧ (size = 2 ^ shift.toNat ∨ size = 0) := by
  have hshift : shift.toNat ≠ 63 := fun heq => h (UInt8.toNat_inj.1 heq)
  rw [shiftedOne, if_neg hshift]
  split
  · exact ⟨2 ^ shift.toNat, by norm_cast, .inl rfl⟩
  · exact ⟨0, rfl, .inr rfl⟩

theorem eachChunk_negative (hne : data ≠ []) :
    eachChunk (shiftedOne 63) c.decryptNumbered data.length 0 data = .error .panicked := by
  have hpos := List.length_pos_iff.2 hne
  have hnegative : shiftedOne 63 = -2 ^ 63 := rfl
  obtain ⟨fuel, hfuel⟩ : ∃ k, data.length = k + 1 := ⟨data.length - 1, by omega⟩
  rw [hfuel, eachChunk, if_neg hne, if_neg (by omega), if_pos (by omega)]

theorem safe_header_iff (hideal : c.gcm.Ideal) (shift : UInt8) (rest : Bytes) :
    c.Safe (0 :: shift :: rest) ↔ rest ≠ [] ∧ shift ≠ 63 ∧
      chunkOverheads rest.length (shiftedOne shift) ≤ rest.length := by
  rw [Safe, decryptData_header]
  constructor
  · rintro ⟨hcalm, hsound⟩
    have hlong : chunkOverheads rest.length (shiftedOne shift) ≤ rest.length :=
      Nat.le_of_not_lt fun hshort => hcalm (if_pos hshort)
    rw [if_neg (Nat.not_lt.2 hlong)] at hcalm hsound
    have hne : rest ≠ [] := by
      rintro rfl
      obtain ⟨shift', chunks, hheader, hchunked⟩ := hsound [] rfl
      have hlength := hchunked.flatten_length.1
      rw [← (List.cons.inj (List.cons.inj hheader).2).2] at hlength
      cases hlength
    refine ⟨hne, ?_, hlong⟩
    rintro rfl
    exact hcalm (eachChunk_negative hne)
  · rintro ⟨hne, hshift, hlong⟩
    obtain ⟨size, hsize, hpower⟩ := shiftedOne_of_ne hshift
    rw [if_neg (Nat.not_lt.2 hlong), hsize]
    refine ⟨eachChunk_ne_panicked _, fun plaintext hdecrypted => ?_⟩
    obtain ⟨chunks, rfl, hchunked⟩ := chunked_of_decrypt hideal hne (Nat.le_refl _) hdecrypted
    rcases hpower with rfl | rfl
    · exact ⟨shift, chunks, rfl, hchunked⟩
    · cases hchunked.flatten_length.2

theorem safe_iff (hideal : c.gcm.Ideal) (encryptedData : Bytes) :
    c.Safe encryptedData ↔ Decryptable encryptedData := by
  match encryptedData with
  | [] =>
    refine ⟨fun hsafe => ?_, False.elim⟩
    obtain ⟨shift, chunks, hheader, -⟩ := hsafe.2 [] (by simp [decryptData])
    cases hheader
  | signature :: rest =>
    by_cases hsignature : signature = 0
    · subst hsignature
      match rest with
      | [] => simp [Safe, Decryptable, decryptData, c.key_length]
      | shift :: rest => simpa [Decryptable] using safe_header_iff hideal shift rest
    · simp [Safe, Decryptable, decryptData, c.key_length, hsignature]

theorem Chunked.sealedAs (h : Chunked c size n chunks plaintext) {k : Nat}
    (hk : chunks[k]? = some chunk) :
    ∃ plaintext', c.SealedAs (n + k) (decide (k + 1 = chunks.length)) chunk plaintext' := by
  induction h generalizing k with
  | last _ hsealed =>
    cases k with
    | zero =>
      obtain rfl := Option.some.inj hk
      exact ⟨_, hsealed⟩
    | succ k => cases hk
  | @more n _ plaintext _ _ _ hsealed hrest ih =>
    cases k with
    | zero =>
      obtain rfl := Option.some.inj hk
      refine ⟨plaintext, ?_⟩
      rwa [decide_eq_false (by cases hrest <;> simp)]
    | succ k =>
      obtain ⟨plaintext', hchunk⟩ := ih hk
      rw [Nat.succ_add_eq_add_succ] at hchunk
      exact ⟨plaintext', by simpa using hchunk⟩

/-- Every part of the rest that is a sealed chunk is one of the given ones. -/
def Unforged (c : AESGCMHelper) (chunks : List Bytes) (rest : Bytes) : Prop :=
  ∀ left chunk right n isLastChunk plaintext, rest = left ++ chunk ++ right →
    c.SealedAs n isLastChunk chunk plaintext → chunk ∈ chunks

theorem Chunked.eq_of_subset (hideal : c.gcm.Ideal) {chunks' : List Bytes} {plaintext' : Bytes}
    (h : Chunked c size 0 chunks plaintext) (h' : Chunked c size 0 chunks' plaintext')
    (hcount : chunks.length ≤ 2 ^ 32) (hsubset : ∀ chunk ∈ chunks', chunk ∈ chunks) :
    chunks' = chunks := by
  -- a chunk stands at its number, and at the end exactly when it is sealed as last
  have hplace : ∀ k chunk, chunks'[k]? = some chunk → ∃ i, chunks[i]? = some chunk ∧
      i = k % 2 ^ 32 ∧ (k + 1 = chunks'.length ↔ i + 1 = chunks.length) := by
    intro k chunk hk
    obtain ⟨i, hi⟩ := List.mem_iff_getElem?.1 (hsubset chunk (List.mem_of_getElem? hk))
    obtain ⟨_, hsealed⟩ := h.sealedAs hi
    obtain ⟨_, hsealed'⟩ := h'.sealedAs hk
    obtain ⟨hindex, hlast⟩ := hsealed'.unique hideal hsealed
    have hlt := (List.getElem?_eq_some_iff.1 hi).1
    refine ⟨i, hi, ?_, decide_eq_decide.1 hlast⟩
    omega
  have hpos : 0 < chunks.length := by cases h <;> simp
  have hlength : chunks'.length = chunks.length := by
    by_cases hlong : chunks.length < chunks'.length
    · obtain ⟨i, -, hi, hlast⟩ := hplace (chunks.length - 1) _
        (List.getElem?_eq_getElem (by omega))
      omega
    · have hpos' : 0 < chunks'.length := by cases h' <;> simp
      obtain ⟨i, -, hi, hlast⟩ := hplace (chunks'.length - 1) _
        (List.getElem?_eq_getElem (by omega))
      omega
  apply List.ext_getElem?
  intro k
  cases hk : chunks'[k]? with
  | none =>
    rw [List.getElem?_eq_none_iff] at hk
    exact (List.getElem?_eq_none (by omega)).symm
  | some chunk =>
    obtain ⟨i, hi, hmod, -⟩ := hplace k chunk hk
    have hlt := (List.getElem?_eq_some_iff.1 hk).1
    obtain rfl : i = k := by omega
    exact hi.symm

/-- Decryption neither panics nor accepts a string that is not well formed exactly for
the strings with usable chunks, and of these none but the string itself is made of the
chunks of a string. -/
theorem decryptData_detects_tampering (c : AESGCMHelper) (hideal : c.gcm.Ideal) :
    (∀ encryptedData, c.Safe encryptedData ↔ Decryptable encryptedData) ∧
      ∀ (shift : UInt8) (chunks : List Bytes) (plaintext rest : Bytes),
        Chunked c (2 ^ shift.toNat) 0 chunks plaintext → chunks.length ≤ 2 ^ 32 →
        c.Unforged chunks rest → Decryptable (0 :: shift :: rest) → rest ≠ chunks.flatten →
        ∃ stop, c.decryptData (0 :: shift :: rest) = .error stop := by
  refine ⟨safe_iff hideal, ?_⟩
  intro shift chunks plaintext rest hchunked hcount hunforged hdecryptable hne
  cases hdecrypted : c.decryptData (0 :: shift :: rest) with
  | error stop => exact ⟨stop, rfl⟩
  | ok plaintext' =>
    obtain ⟨_, chunks', hheader, hchunked'⟩ :=
      ((safe_iff hideal _).2 hdecryptable).2 plaintext' hdecrypted
    obtain ⟨-, hheader⟩ := List.cons.inj hheader
    obtain ⟨rfl, rfl⟩ := List.cons.inj hheader
    refine absurd (congrArg List.flatten (hchunked.eq_of_subset hideal hchunked' hcount ?_)) hne
    intro chunk hchunk
    obtain ⟨k, hk⟩ := List.mem_iff_getElem?.1 hchunk
    obtain ⟨left, right, rfl⟩ := List.append_of_mem hchunk
    obtain ⟨_, hsealed⟩ := hchunked'.sealedAs hk
    exact hunforged left.flatten chunk right.flatten _ _ _ (by simp) hsealed

def clearTag (nonce aad : Bytes) : Bytes := (aad ++ nonce ++ List.replicate 16 0).take 16

@[simp] theorem clearTag_length (nonce aad : Bytes) : (clearTag nonce aad).length = 16 := by
  simp only [clearTag, List.length_take, List.length_append, List.length_replicate]
  omega

def clearGcm : Gcm where
  seals nonce aad plaintext := plaintext ++ clearTag nonce aad
  opens nonce aad ciphertext :=
    if ciphertext.drop (ciphertext.length - 16) = clearTag nonce aad then
      some (ciphertext.take (ciphertext.length - 16))
    else none
  seals_length := by simp
  opens_seals := by simp

theorem clearGcm_ideal : clearGcm.Ideal where
  sealed := by
    intro nonce aad ciphertext plaintext h
    simp only [clearGcm, Option.ite_none_right_eq_some, Option.some.injEq] at h ⊢
    rw [← h.1, ← h.2, List.take_append_drop]
  apart := by
    intro nonce aad aad' plaintext plaintext' hlength hlength' h
    have htag := congrArg (List.take 5) (List.append_inj' h (by simp)).2
    simpa [clearTag, List.take_append, List.take_of_length_le, hlength, hlength'] using htag

def clearHelper : AESGCMHelper := ⟨List.replicate 32 0, clearGcm, by simp⟩

theorem short_chunk_panics : clearHelper.decryptData [0, 15, 7] = .error .panicked := by
  decide

def firstChunk : Bytes :=
  clearHelper.encryptChunk ((List.range 12).map fun k => .ofNat (40 + k)) [1, 2, 3, 4]
    (calculateAAD 0 false)

def secondChunk : Bytes :=
  clearHelper.encryptChunk ((List.range 12).map fun k => .ofNat (60 + k)) [5, 6, 7, 8]
    (calculateAAD 1 true)

theorem twoChunks_chunked :
    Chunked clearHelper 32 0 [firstChunk, secondChunk] ([1, 2, 3, 4] ++ [5, 6, 7, 8]) := by
  refine .more (by decide) ⟨(List.range 12).map fun k => .ofNat (40 + k), by decide, rfl⟩
    (.last (by decide) ⟨(List.range 12).map fun k => .ofNat (60 + k), by decide, rfl⟩)

/-- A chunk begins and ends with its nonce. -/
theorem SealedAs.ends (h : clearHelper.SealedAs n isLastChunk chunk plaintext) :
    28 ≤ chunk.length ∧ chunk.drop (chunk.length - 11) = chunk.take 11 := by
  obtain ⟨nonce, hnonce, rfl⟩ := h
  have htag : clearTag nonce (calculateAAD (.ofNat n) isLastChunk) =
      calculateAAD (.ofNat n) isLastChunk ++ nonce.take 11 := by
    simp [clearTag, calculateAAD, List.take_append, hnonce]
  have hchunk : clearHelper.encryptChunk nonce plaintext (calculateAAD (.ofNat n) isLastChunk) =
      (nonce ++ plaintext ++ calculateAAD (.ofNat n) isLastChunk) ++ nonce.take 11 := by
    simp only [encryptChunk, clearHelper, clearGcm, htag, List.append_assoc]
  refine ⟨by rw [encryptChunk_length hnonce]; omega, ?_⟩
  rw [hchunk, List.drop_left' (by simp [calculateAAD, hnonce]; omega), List.append_assoc,
    List.append_assoc, List.take_append_of_le_length (by omega)]

theorem unforged_of_parts {rest : Bytes} (h : ∀ i ≤ rest.length, ∀ k ≤ rest.length,
      28 ≤ ((rest.drop i).take k).length ∧ ((rest.drop i).take k).drop
        (((rest.drop i).take k).length - 11) = ((rest.drop i).take k).take 11 →
      (rest.drop i).take k ∈ chunks) : clearHelper.Unforged chunks rest := by
  rintro left chunk right n isLastChunk plaintext rfl hsealed
  have hpart := h left.length (by simp) chunk.length (by simp; omega)
  simp only [List.append_assoc, List.drop_left, List.take_left] at hpart
  exact hpart hsealed.ends

/-- The chunks in the other order, or without the last one. -/
theorem clearHelper_rejects :
    (∃ stop, clearHelper.decryptData (0 :: 5 :: (secondChunk ++ firstChunk)) = .error stop) ∧
      ∃ stop, clearHelper.decryptData (0 :: 5 :: firstChunk) = .error stop :=
  have hdetects := (decryptData_detects_tampering clearHelper clearGcm_ideal).2 5 _ _
  ⟨hdetects _ twoChunks_chunked (by decide) (unforged_of_parts (by decide +kernel))
      (.inr ⟨by decide, by decide, by decide⟩) (by decide),
    hdetects _ twoChunks_chunked (by decide) (unforged_of_parts (by decide +kernel))
      (.inr ⟨by decide, by decide, by decide⟩) (by decide)⟩

end AESGCMHelper

end MessagingGateway.Crypto
