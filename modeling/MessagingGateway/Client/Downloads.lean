import MessagingGateway.Crypto.Chunks
import MessagingGateway.Media.Requests

/-!
# Downloads of encrypted media

Media of at most the maximum is downloaded exactly when its chunks, of which each adds
28 bytes, stay within the 30 bytes that the bound on the response leaves beside the header.
-/

namespace MessagingGateway.Client

open Crypto AESGCMHelper Media Relational

def newAESGCMHelper (gcm : Bytes → Gcm) (key : Bytes) : Option AESGCMHelper :=
  if h : key.length = 32 then some ⟨key, gcm key, h⟩ else none

/-- `NewAESGCMHelper` and `DecryptData`, with the errors of `DownloadMediaContext`. -/
def decryptMedia (gcm : Bytes → Gcm) (key encrypted : Bytes) : Except MediaError Bytes :=
  match newAESGCMHelper gcm key with
  | none => .error .invalid
  | some cryptor =>
    match cryptor.decryptData encrypted with
    | .error .panicked => .error .panicked
    | .error _ => .error .invalid
    | .ok plaintext => .ok plaintext

theorem copyLimited_eq (limit : Nat) (reads : List Bytes) :
    copyLimited limit reads = reads.flatten.take limit := by
  induction reads generalizing limit with
  | nil => simp [copyLimited]
  | cons read reads ih =>
    rw [copyLimited]
    split
    · next hzero => simp [hzero]
    · rw [ih, List.flatten_cons, List.take_append]

theorem readMediaBounded_eq (reads : List Bytes) (maximum : Nat) :
    readMediaBounded (some reads) maximum =
      if reads.flatten.length ≤ maximum then .ok reads.flatten else .error .tooLarge := by
  have hlimit : ((maximum : Int) + 1).toNat = maximum + 1 := rfl
  simp only [readMediaBounded, copyLimited_eq, hlimit, List.length_take]
  split
  · rw [if_neg (by omega)]
  · rw [if_pos (by omega), List.take_of_length_le (by omega)]

/-- The provider serves exactly the encrypted media, with or without a length. -/
structure Serves (response : Response) (encrypted : Bytes) : Prop where
  status : 200 ≤ response.statusCode ∧ response.statusCode < 300
  length : response.contentLength = -1 ∨ response.contentLength = encrypted.length
  body : ∃ reads, response.body = some reads ∧ reads.flatten = encrypted

/-- The request of a download can be made and is answered with `response`. -/
structure Answers (gcm : Bytes → Gcm) (world : MediaWorld) (policy : Option URLPolicy)
    (response : Response) : Prop where
  encodes : world.encodes = true
  valid : world.validRequest uploadMediaURL = true
  decrypt : world.decrypt = decryptMedia gcm
  answer : ∃ target log, mediaClient world policy uploadMediaURL [] = (.ok target, log) ∧
    (clientDo world target uploadMediaURL log).1 = .ok response

section

variable {gcm : Bytes → Gcm} {c : AESGCMHelper} {mediaID : String} {key plaintext encrypted : Bytes}
  {maximum : Nat} {response : Response} {nonces : Nonces} {world : MediaWorld}
  {policy : Option URLPolicy}

theorem download_answered (hid : mediaID ≠ "") (hid' : mediaID.utf8ByteSize ≤ 1024)
    (hkey : key.length = 32) (hpos : 1 ≤ maximum) (hmaximum : maximum ≤ maxGatewayMediaBytes)
    (hanswers : Answers gcm world policy response) :
    (downloadMediaContext world policy ⟨mediaID, key, maximum⟩ []).1 =
      downloadedMedia world ⟨mediaID, key, maximum⟩ response := by
  obtain ⟨target, log, hclient, hdo⟩ := hanswers.answer
  have hchecks : (mediaID != "" && decide (mediaID.utf8ByteSize ≤ 1024) && key.length == 32 &&
      decide ((1 : Int) ≤ maximum) && decide ((maximum : Int) ≤ maxGatewayMediaBytes)) = true := by
    simp [hid, hid', hkey, hmaximum]
    omega
  have hencodes : (world.encodes && world.validRequest uploadMediaURL) = true := by
    rw [hanswers.encodes, hanswers.valid]
    rfl
  simp only [downloadMediaContext, Talk.check, hchecks, hencodes, if_true]
  show (Talk.bind (mediaClient world policy uploadMediaURL) _ []).1 = _
  rw [Talk.bind, hclient]
  show (Talk.bind (clientDo world target uploadMediaURL) _ log).1 = _
  rw [Talk.bind]
  cases hresult : clientDo world target uploadMediaURL log with
  | mk answer log' =>
    rw [hresult] at hdo
    obtain rfl : answer = .ok response := hdo
    show (Talk.ofExcept (downloadedMedia world _ response) log').1 = _
    cases downloadedMedia world _ response <;> rfl

theorem download_served (hid : mediaID ≠ "") (hid' : mediaID.utf8ByteSize ≤ 1024)
    (hkey : newAESGCMHelper gcm key = some c) (hpos : 1 ≤ maximum)
    (hmaximum : maximum ≤ maxGatewayMediaBytes) (hplaintext : plaintext.length ≤ maximum)
    (hencrypted : c.encryptData nonces plaintext = .ok encrypted)
    (hserves : Serves response encrypted) (hanswers : Answers gcm world policy response) :
    (downloadMediaContext world policy ⟨mediaID, key, maximum⟩ []).1 =
      if plaintext.length + 28 * ((plaintext.length + 32739) / 32740) ≤ maximum + 30 then
        .ok plaintext
      else .error .tooLarge := by
  obtain ⟨encrypted', hencrypted', hdecrypted, hlength⟩ := c.encryptData_ok nonces plaintext
  obtain rfl := Except.ok.inj (hencrypted.symm.trans hencrypted')
  have hkey' : key.length = 32 := by
    unfold newAESGCMHelper at hkey
    split at hkey
    · assumption
    · cases hkey
  have hstatus : succeeded response = true := by simp [succeeded, hserves.status]
  have hdecrypt : decryptMedia gcm key encrypted = .ok plaintext := by
    simp only [decryptMedia, hkey, hdecrypted]
  obtain ⟨reads, hreads, hbody⟩ := hserves.body
  have hread := readMediaBounded_eq reads (maximum + 32)
  rw [hbody] at hread
  rw [download_answered hid hid' hkey' hpos hmaximum hanswers, downloadedMedia, hstatus, hreads,
    hanswers.decrypt]
  simp only [Bool.not_true, Bool.false_eq_true, if_false]
  by_cases hfits : plaintext.length + 28 * ((plaintext.length + 32739) / 32740) ≤ maximum + 30
  · have hdeclared : ¬ ((maximum : Int) + 32 < response.contentLength) := by
      rcases hserves.length with h | h <;> omega
    rw [if_pos (by omega)] at hread
    rw [if_pos hfits, if_neg hdeclared]
    show (readMediaBounded (some reads) (maximum + 32 : Nat)).bind _ = _
    rw [hread]
    show (decryptMedia gcm key encrypted).bind _ = _
    rw [hdecrypt]
    exact if_neg (by omega)
  · rw [if_neg (by omega)] at hread
    rw [if_neg hfits]
    split
    · rfl
    · show (readMediaBounded (some reads) (maximum + 32 : Nat)).bind _ = _
      rw [hread]
      rfl

theorem download_iff_fits (hid : mediaID ≠ "") (hid' : mediaID.utf8ByteSize ≤ 1024)
    (hkey : newAESGCMHelper gcm key = some c) (hpos : 1 ≤ maximum)
    (hmaximum : maximum ≤ maxGatewayMediaBytes) (hplaintext : plaintext.length ≤ maximum)
    (hencrypted : c.encryptData nonces plaintext = .ok encrypted)
    (hserves : Serves response encrypted) (hanswers : Answers gcm world policy response) :
    (downloadMediaContext world policy ⟨mediaID, key, maximum⟩ []).1 = .ok plaintext ↔
      plaintext.length + 28 * ((plaintext.length + 32739) / 32740) ≤ maximum + 30 := by
  rw [download_served hid hid' hkey hpos hmaximum hplaintext hencrypted hserves hanswers]
  split
  · next hfits => exact iff_of_true rfl hfits
  · next hlong => exact iff_of_false nofun hlong

/-- A public address, and a server that answers every request with `response`. -/
def servingWorld (response : Response) : MediaWorld :=
  { compatibleWorld with
    lookupIPAddr := fun _ _ => some [[8, 8, 8, 8]]
    roundTrip := fun _ _ => ⟨[], .answered response⟩
    decrypt := decryptMedia fun _ => clearGcm }

theorem servingWorld_answers (response : Response) :
    Answers (fun _ => clearGcm) (servingWorld response) providerPolicy response := by
  have hclient : mediaClient (servingWorld { statusCode := 0 }) providerPolicy uploadMediaURL [] =
      (.ok ⟨"instantmessaging-pa.googleapis.com", "443", [8, 8, 8, 8]⟩,
        [.resolved "instantmessaging-pa.googleapis.com" (some [[8, 8, 8, 8]])]) := by
    decide +kernel
  exact ⟨rfl, rfl, rfl, _, _, hclient, rfl⟩

/-- Media of the maximal size in two chunks. -/
theorem two_chunks_too_large : ∃ encrypted,
    clearHelper.encryptData (fun _ => ⟨List.replicate 12 0, rfl⟩) (List.replicate 32741 0) =
        .ok encrypted ∧
      (downloadMediaContext (servingWorld { statusCode := 200, body := some [encrypted] })
        providerPolicy ⟨"media", List.replicate 32 0, 32741⟩ []).1 = .error .tooLarge := by
  obtain ⟨encrypted, hencrypted, -⟩ := clearHelper.encryptData_ok
    (fun _ => ⟨List.replicate 12 0, rfl⟩) (List.replicate 32741 0)
  refine ⟨encrypted, hencrypted, ?_⟩
  refine (download_served (by decide) (by decide) rfl (by omega) (by decide)
    (Nat.le_of_eq List.length_replicate) hencrypted ⟨by simp, .inl rfl, _, rfl, by simp⟩
    (servingWorld_answers _)).trans ?_
  rw [List.length_replicate, if_neg (by omega)]

theorem one_chunk_fits : ∃ encrypted,
    clearHelper.encryptData (fun _ => ⟨List.replicate 12 0, rfl⟩) [1, 2, 3] = .ok encrypted ∧
      (downloadMediaContext (servingWorld ⟨200, "", encrypted.length, some [encrypted]⟩)
        providerPolicy ⟨"media", List.replicate 32 0, 3⟩ []).1 = .ok [1, 2, 3] := by
  obtain ⟨encrypted, hencrypted, -⟩ := clearHelper.encryptData_ok
    (fun _ => ⟨List.replicate 12 0, rfl⟩) [1, 2, 3]
  exact ⟨encrypted, hencrypted, (download_iff_fits (by decide) (by decide) rfl (by decide)
    (by decide) (by decide) hencrypted ⟨by simp, .inr rfl, _, rfl, by simp⟩
    (servingWorld_answers _)).2 (by decide)⟩

end

end MessagingGateway.Client
