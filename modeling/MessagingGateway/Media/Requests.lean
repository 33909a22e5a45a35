import MessagingGateway.Media.Addresses
import MessagingGateway.Relational.Talks

/-!
# Media requests

Uploads and downloads go through a client that is made for one URL. The policy resolves
the host, checks every address of the answer and pins the first one; the client dials
the pinned address whatever it is asked to dial, and follows no redirect. The resolver
and the servers answer as they like, also differently each time.
-/

namespace MessagingGateway.Media

open Relational Store

/-! ### The world of a request -/

structure ParsedURL where
  scheme : String
  hasUser : Bool := false
  fragment : String := ""
  hostname : String
  port : String := ""
  deriving DecidableEq

structure Response where
  statusCode : Int
  /-- the header `x-goog-upload-url`, empty if it is missing -/
  uploadURL : String := ""
  contentLength : Int := -1
  /-- the reads of the body; `none` is a read error -/
  body : Option (List Bytes) := some []
  deriving DecidableEq

/-- How a request ends for the HTTP library, before it follows a redirect. -/
inductive Ending
  | failed
  | redirected (location : String)
  | answered (response : Response)
  deriving DecidableEq

/-- A request as the HTTP library carries it out: the connections it asks for, by network
and address, and how it ends. -/
structure RoundTrip where
  connections : List (String × String) := []
  ending : Ending
  deriving DecidableEq

inductive MediaEvent
  | resolved (host : String) (answer : Option (List Bytes))
  | sent (url : String) (trip : RoundTrip)
  | dialled (network : String) (ip : Bytes) (port : String)
  deriving DecidableEq

abbrev MediaLog := List MediaEvent

inductive MediaError
  | unsafeURL
  | redirectDenied
  | policyRequired
  | tooLarge
  | invalid
  | provider
  | transport
  | panicked
  deriving DecidableEq

/-- The libraries and the network. What the network answers may depend on everything
that has happened. -/
structure MediaWorld where
  parseURL : String → Option ParsedURL
  isIP : String → Bool
  toLower : String → String
  lookupIPAddr : String → MediaLog → Option (List Bytes)
  roundTrip : String → MediaLog → RoundTrip
  /-- `http.NewRequestWithContext` accepts the URL -/
  validRequest : String → Bool
  /-- `buildStartUploadPayload` and the marshalling of the download metadata succeed -/
  encodes : Bool
  encrypt : Bytes → Option Bytes
  decrypt : Bytes → Bytes → Except MediaError Bytes
  /-- the media ID of the answer to an upload, plain or in base 64 -/
  uploadedMediaID : Bytes → Option String

abbrev MediaTalk := Talk MediaError MediaEvent

/-! ### The policy -/

/-- `URLPolicy`, without its time limits; the hosts are normalised. -/
structure URLPolicy where
  hosts : List String
  deriving DecidableEq

structure PinnedTarget where
  hostname : String
  port : String
  ip : Bytes
  deriving DecidableEq

def trimDot (host : String) : String :=
  if host.toList.getLast? = some '.' then String.ofList host.toList.dropLast else host

section

variable (world : MediaWorld)

def validateAndPin (policy : URLPolicy) (rawURL : String) : MediaTalk PinnedTarget := do
  let parsed ← Talk.ofExcept ((world.parseURL rawURL).elim (.error .unsafeURL) .ok)
  Talk.check (parsed.scheme == "https" && !parsed.hasUser && parsed.fragment == "" &&
    parsed.hostname != "") .unsafeURL
  let hostname := world.toLower (trimDot parsed.hostname)
  Talk.check (policy.hosts.contains hostname && !world.isIP hostname) .unsafeURL
  let port := if parsed.port = "" then "443" else parsed.port
  Talk.check (port == "443") .unsafeURL
  let answer ← Talk.call (world.lookupIPAddr hostname) (.resolved hostname)
  let addresses ← Talk.ofExcept (answer.elim (.error .unsafeURL) .ok)
  Talk.check (addresses.all publicProviderIP) .unsafeURL
  let pinned ← Talk.ofExcept (addresses.head?.elim (.error .unsafeURL) .ok)
  pure ⟨hostname, port, pinned⟩

/-- `mediaClient` with `ClientFor`; a client is its target. -/
def mediaClient (policy : Option URLPolicy) (rawURL : String) : MediaTalk PinnedTarget := do
  let policy ← Talk.ofExcept (policy.elim (.error .policyRequired) .ok)
  validateAndPin world policy rawURL

/-- The `DialContext` of a client, for each connection the HTTP library asks for. -/
def dial (target : PinnedTarget) : List (String × String) → MediaTalk Unit
  | [] => pure ()
  | (network, _) :: connections => do
      Talk.call (fun _ => ()) fun _ => .dialled network target.ip target.port
      dial target connections

/-- `Do` of a pinned client; `CheckRedirect` refuses every redirect. -/
def clientDo (target : PinnedTarget) (url : String) : MediaTalk Response := do
  let trip ← Talk.call (world.roundTrip url) (.sent url)
  dial target trip.connections
  match trip.ending with
  | .failed => Talk.fail .transport
  | .redirected _ => Talk.fail .redirectDenied
  | .answered response => pure response

/-! ### Uploads and downloads -/

def uploadMediaURL : String := "https://instantmessaging-pa.googleapis.com/upload"

def maxGatewayMediaBytes : Int := 26214400

def maxUploadResponseBytes : Int := 65536

def gatewayImageMIME (value : String) : Bool :=
  ["image/jpeg", "image/png", "image/gif", "image/webp"].contains value

def copyLimited : Nat → List Bytes → Bytes
  | _, [] => []
  | limit, read :: reads =>
    if limit = 0 then [] else read.take limit ++ copyLimited (limit - read.length) reads

/-- `readMediaBounded`, with the error of a failed read. -/
def readMediaBounded (source : Option (List Bytes)) (maximum : Int) : Except MediaError Bytes :=
  match source with
  | none => .error .transport
  | some reads =>
    let output := copyLimited (maximum + 1).toNat reads
    if maximum < output.length then .error .tooLarge else .ok output

def succeeded (response : Response) : Bool :=
  decide (200 ≤ response.statusCode) && decide (response.statusCode < 300)

def startMediaUpload (policy : Option URLPolicy) : MediaTalk String := do
  Talk.check (world.encodes && world.validRequest uploadMediaURL) .invalid
  let client ← mediaClient world policy uploadMediaURL
  let response ← clientDo world client uploadMediaURL
  Talk.check (succeeded response) .provider
  Talk.check (response.uploadURL != "") .invalid
  -- the returned target is validated before it is carried to the second request
  let _ ← mediaClient world policy response.uploadURL
  pure response.uploadURL

def finalizeMediaUpload (policy : Option URLPolicy) (uploadURL : String) : MediaTalk String := do
  Talk.check (world.validRequest uploadURL) .invalid
  let client ← mediaClient world policy uploadURL
  let response ← clientDo world client uploadURL
  Talk.check (succeeded response) .provider
  let body ← Talk.ofExcept ((readMediaBounded response.body maxUploadResponseBytes).mapError
    fun _ => .invalid)
  Talk.ofExcept (((world.uploadedMediaID body).filter (· != "")).elim (.error .invalid) .ok)

structure Upload where
  /-- `none` is a missing reader, `some none` a reader that fails -/
  source : Option (Option (List Bytes))
  declaredSize : Int
  fileName : String
  mimeType : String
  maximum : Int
  deriving DecidableEq

structure MediaContent where
  mediaID : String
  mediaName : String
  size : Nat
  mimeType : String
  deriving DecidableEq

def uploadMediaContext (policy : Option URLPolicy) (upload : Upload) : MediaTalk MediaContent := do
  let source ← Talk.ofExcept (upload.source.elim (.error .invalid) .ok)
  Talk.check (decide (1 ≤ upload.maximum) && decide (upload.maximum ≤ maxGatewayMediaBytes) &&
    decide (upload.declaredSize ≤ upload.maximum) && gatewayImageMIME upload.mimeType &&
    decide (upload.fileName.utf8ByteSize ≤ 255)) .invalid
  Talk.check policy.isSome .policyRequired
  let plaintext ← Talk.ofExcept (readMediaBounded source upload.maximum)
  Talk.check (decide (upload.declaredSize < 0) ||
    decide ((plaintext.length : Int) = upload.declaredSize)) .invalid
  Talk.check (world.encrypt plaintext).isSome .invalid
  let uploadURL ← startMediaUpload world policy
  let mediaID ← finalizeMediaUpload world policy uploadURL
  pure ⟨mediaID, upload.fileName, plaintext.length, upload.mimeType⟩

structure Download where
  mediaID : String
  key : Bytes
  maximum : Int
  deriving DecidableEq

/-- `DownloadMediaContext` from the response of the provider on. The bound on the response
adds 32 bytes to the bound on the media, which covers the header and one chunk. -/
def downloadedMedia (download : Download) (response : Response) : Except MediaError Bytes :=
  if !succeeded response then .error .provider
  else if download.maximum + 32 < response.contentLength then .error .tooLarge
  else do
    let encrypted ← readMediaBounded response.body (download.maximum + 32)
    let plaintext ← world.decrypt download.key encrypted
    if download.maximum < plaintext.length then .error .tooLarge else .ok plaintext

def downloadMediaContext (policy : Option URLPolicy) (download : Download) : MediaTalk Bytes := do
  Talk.check (download.mediaID != "" && decide (download.mediaID.utf8ByteSize ≤ 1024) &&
    download.key.length == 32 && decide (1 ≤ download.maximum) &&
    decide (download.maximum ≤ maxGatewayMediaBytes)) .invalid
  Talk.check (world.encodes && world.validRequest uploadMediaURL) .invalid
  let client ← mediaClient world policy uploadMediaURL
  let response ← clientDo world client uploadMediaURL
  Talk.ofExcept (downloadedMedia world download response)

end

/-! ### What is dialled -/

/-- The address was checked: an allowed host resolved to it, and every address of that
answer is public for the policy. -/
def Checked (policy : Option URLPolicy) (ip : Bytes) (log : MediaLog) : Prop :=
  ∃ allowed, policy = some allowed ∧ ∃ host ∈ allowed.hosts, ∃ answer,
    .resolved host (some answer) ∈ log ∧ ip ∈ answer ∧
      ∀ other ∈ answer, publicProviderIP other = true

/-- Every connection goes to port 443 of an address that was checked before. -/
def DialsChecked (policy : Option URLPolicy) (log : MediaLog) : Prop :=
  ∀ before network ip port after, log = before ++ .dialled network ip port :: after →
    port = "443" ∧ Checked policy ip before

theorem Checked.mono {policy : Option URLPolicy} {ip : Bytes} {log : MediaLog}
    (h : Checked policy ip log) (e : MediaEvent) : Checked policy ip (log ++ [e]) := by
  obtain ⟨allowed, hpolicy, host, hhost, answer, hmem, hrest⟩ := h
  exact ⟨allowed, hpolicy, host, hhost, answer, List.mem_append_left _ hmem, hrest⟩

theorem DialsChecked.snoc {policy : Option URLPolicy} {log : MediaLog} {e : MediaEvent}
    (h : DialsChecked policy log)
    (he : ∀ network ip port, e = .dialled network ip port → port = "443" ∧ Checked policy ip log) :
    DialsChecked policy (log ++ [e]) := by
  intro before network ip port after hcut
  rcases cut_snoc hcut with ⟨rfl, rfl, -⟩ | ⟨rest, -, rfl⟩
  · exact he network ip port rfl
  · exact h before network ip port rest rfl

section

variable {world : MediaWorld} {policy : Option URLPolicy}

def Pinned (policy : Option URLPolicy) (target : PinnedTarget) (log : MediaLog) : Prop :=
  DialsChecked policy log ∧ target.port = "443" ∧ Checked policy target.ip log

theorem elim_ok {α : Type} {x : Option α} {e : MediaError} {a : α}
    (h : x.elim (.error e) Except.ok = .ok a) : x = some a := by
  cases x with
  | none => cases h
  | some b => rw [Except.ok.inj h]

theorem validateAndPin_ensures (allowed : URLPolicy) (rawURL : String) :
    Talk.Ensures (DialsChecked (some allowed)) (validateAndPin world allowed rawURL)
      (Pinned (some allowed)) (DialsChecked (some allowed)) := by
  have hstop : ∀ log, DialsChecked (some allowed) log → DialsChecked (some allowed) log :=
    fun _ h => h
  unfold validateAndPin
  refine .bind (.ofExcept (fun _ _ => hstop) hstop) fun parsed => ?_
  refine .check (fun _ => .check (fun hhost => .check (fun hport => ?_) hstop) hstop) hstop
  rw [Bool.and_eq_true, List.contains_iff_mem] at hhost
  set hostname := world.toLower (trimDot parsed.hostname)
  -- the answer of the resolver is checked where it is logged
  refine .bind (Q := fun answer log =>
      DialsChecked (some allowed) log ∧ .resolved hostname answer ∈ log)
    (.call fun history h answer => ⟨h.snoc fun _ _ _ heq => (nomatch heq), by simp⟩)
    fun answer => ?_
  refine .bind (Q := fun addresses log => DialsChecked (some allowed) log ∧
      .resolved hostname (some addresses) ∈ log)
    (.ofExcept (fun addresses hanswer log h => ?_) fun _ h => h.1) fun addresses => ?_
  · rw [elim_ok hanswer] at h
    exact h
  refine .check (fun hpublic => ?_) fun _ h => h.1
  refine .bind (Q := fun ip log => Pinned (some allowed) ⟨hostname, _, ip⟩ log)
    (.ofExcept (fun ip hip log h => ?_) fun _ h => h.1) fun ip => .pure fun _ h => h
  exact ⟨h.1, beq_iff_eq.1 hport, allowed, rfl, hostname, hhost.1, addresses, h.2,
    List.mem_of_mem_head? (elim_ok hip), List.all_eq_true.1 hpublic⟩

theorem mediaClient_ensures (rawURL : String) :
    Talk.Ensures (DialsChecked policy) (mediaClient world policy rawURL) (Pinned policy)
      (DialsChecked policy) := by
  cases policy with
  | none => exact fun _ h => h
  | some allowed => exact validateAndPin_ensures allowed rawURL

theorem dial_ensures {target : PinnedTarget} (connections : List (String × String)) :
    Talk.Ensures (Pinned policy target) (dial target connections) (fun _ => Pinned policy target)
      (DialsChecked policy) := by
  induction connections with
  | nil => exact .pure fun _ h => h
  | cons connection connections ih =>
    refine .bind (.call fun history h _ => ?_) fun _ => ih
    obtain ⟨hdials, hport, hchecked⟩ := h
    refine ⟨hdials.snoc fun network ip port heq => ?_, hport, hchecked.mono _⟩
    obtain ⟨-, rfl, rfl⟩ := MediaEvent.dialled.inj heq
    exact ⟨hport, hchecked⟩

theorem clientDo_ensures {target : PinnedTarget} (url : String) :
    Talk.Ensures (Pinned policy target) (clientDo world target url) (fun _ => DialsChecked policy)
      (DialsChecked policy) := by
  refine .bind (Q := fun _ => Pinned policy target) (.call fun history h trip => ?_) fun trip =>
    .bind (dial_ensures trip.connections) fun _ => ?_
  · obtain ⟨hdials, hport, hchecked⟩ := h
    exact ⟨hdials.snoc fun _ _ _ heq => (nomatch heq), hport, hchecked.mono _⟩
  · cases trip.ending with
    | failed | redirected location => exact .fail fun _ h => h.1
    | answered response => exact .pure fun _ h => h.1

def Keeps {α : Type} (policy : Option URLPolicy) (t : MediaTalk α) : Prop :=
  Talk.Ensures (DialsChecked policy) t (fun _ => DialsChecked policy) (DialsChecked policy)

theorem Keeps.bind {α β : Type} {t : MediaTalk α} {f : α → MediaTalk β} (ht : Keeps policy t)
    (hf : ∀ a, Keeps policy (f a)) : Keeps policy (t >>= f) :=
  Talk.Ensures.bind ht hf

theorem Keeps.pure {α : Type} (a : α) : Keeps policy (Pure.pure a : MediaTalk α) := fun _ h => h

theorem Keeps.ofExcept {α : Type} (x : Except MediaError α) : Keeps policy (Talk.ofExcept x) :=
  Talk.Ensures.ofExcept (fun _ _ _ h => h) fun _ h => h

theorem Keeps.check {α : Type} {b : Bool} {e : MediaError} {f : Unit → MediaTalk α}
    (hf : Keeps policy (f ())) : Keeps policy (Talk.check b e >>= f) :=
  Talk.Ensures.check (fun _ => hf) fun _ h => h

theorem Keeps.request {α : Type} {url : String} {f : Response → MediaTalk α}
    (hf : ∀ response, Keeps policy (f response)) :
    Keeps policy (mediaClient world policy url >>= fun client => clientDo world client url >>= f) :=
  Talk.Ensures.bind (mediaClient_ensures url) fun _ => Talk.Ensures.bind (clientDo_ensures url) hf

theorem Keeps.mediaClient (url : String) : Keeps policy (mediaClient world policy url) :=
  (mediaClient_ensures url).mono (fun _ h => h) fun _ _ h => h.1

theorem startMediaUpload_keeps : Keeps policy (startMediaUpload world policy) :=
  .check (.request fun _ => .check (.check (.bind (.mediaClient _) fun _ => .pure _)))

theorem finalizeMediaUpload_keeps (uploadURL : String) :
    Keeps policy (finalizeMediaUpload world policy uploadURL) :=
  .check (.request fun _ => .check (.bind (.ofExcept _) fun _ => .ofExcept _))

theorem uploadMediaContext_keeps (upload : Upload) :
    Keeps policy (uploadMediaContext world policy upload) :=
  .bind (.ofExcept _) fun _ => .check (.check (.bind (.ofExcept _) fun _ => .check (.check
    (.bind startMediaUpload_keeps fun _ => .bind (finalizeMediaUpload_keeps _) fun _ => .pure _))))

theorem downloadMediaContext_keeps (download : Download) :
    Keeps policy (downloadMediaContext world policy download) :=
  .check (.check (.request fun _ => .ofExcept _))

end

theorem Keeps.log {α : Type} {policy : Option URLPolicy} {t : MediaTalk α} (h : Keeps policy t) :
    DialsChecked policy (t []).2 := by
  have hlog := h [] fun before _ _ _ after hcut => by simp at hcut
  cases hresult : t [] with
  | mk answer log =>
    rw [hresult] at hlog
    cases answer <;> exact hlog

theorem safe_of_publicProviderIP {ip : Bytes} (h : publicProviderIP ip = true) :
    ∃ a, addrFromSlice ip = some a ∧ (Safe a ↔ ¬ CompatibleInternal a) := by
  unfold publicProviderIP at h
  split at h
  · cases h
  next a ha => exact ⟨a, ha, safe_iff h⟩

/-- The connections of a log, each with what was checked before it, and which of the
checked addresses are safe. -/
def DialsPublic (policy : Option URLPolicy) (log : MediaLog) : Prop :=
  ∀ before network ip port after, log = before ++ .dialled network ip port :: after →
    port = "443" ∧ ∃ allowed, policy = some allowed ∧ ∃ host ∈ allowed.hosts, ∃ answer,
      .resolved host (some answer) ∈ before ∧ ip ∈ answer ∧
        ∀ other ∈ answer, publicProviderIP other = true ∧
          ∃ a, addrFromSlice other = some a ∧ (Safe a ↔ ¬ CompatibleInternal a)

theorem DialsChecked.dialsPublic {policy : Option URLPolicy} {log : MediaLog}
    (h : DialsChecked policy log) : DialsPublic policy log := by
  intro before network ip port after hcut
  obtain ⟨hport, allowed, hpolicy, host, hhost, answer, hmem, hip, hpublic⟩ :=
    h before network ip port after hcut
  exact ⟨hport, allowed, hpolicy, host, hhost, answer, hmem, hip,
    fun other hother => ⟨hpublic other hother, safe_of_publicProviderIP (hpublic other hother)⟩⟩

/-- **Media traffic goes to checked addresses.** Whatever the URLs, the resolver and the
servers answer, every connection of an upload or a download goes to port 443 of an
address the policy has checked for an allowed host. A checked address is safe exactly if
it is not an IPv4-compatible one with an internal IPv4 address. -/
theorem media_dials_public (world : MediaWorld) (policy : Option URLPolicy) :
    (∀ upload, DialsPublic policy (uploadMediaContext world policy upload []).2) ∧
      ∀ download, DialsPublic policy (downloadMediaContext world policy download []).2 :=
  ⟨fun upload => (uploadMediaContext_keeps upload).log.dialsPublic,
    fun download => (downloadMediaContext_keeps download).log.dialsPublic⟩

def providerPolicy : Option URLPolicy := some ⟨["instantmessaging-pa.googleapis.com"]⟩

/-- A resolver that answers `::10.0.0.1`, and a server that can be reached. -/
def compatibleWorld : MediaWorld where
  parseURL _ := some { scheme := "https", hostname := "instantmessaging-pa.googleapis.com" }
  isIP _ := false
  toLower := id
  lookupIPAddr _ _ := some [[0, 0, 0, 0, 0, 0, 0, 0, 0, 0, 0, 0, 10, 0, 0, 1]]
  roundTrip _ _ := ⟨[("tcp", "instantmessaging-pa.googleapis.com:443")], .failed⟩
  validRequest _ := true
  encodes := true
  encrypt := some
  decrypt _ := .ok
  uploadedMediaID _ := none

/-- The policy accepts and a download dials an address that carries `10.0.0.1`. -/
theorem compatible_address_dialled :
    .dialled "tcp" [0, 0, 0, 0, 0, 0, 0, 0, 0, 0, 0, 0, 10, 0, 0, 1] "443" ∈
        (downloadMediaContext compatibleWorld providerPolicy
          ⟨"media", List.replicate 32 0, 1024⟩ []).2 ∧
      ∃ a, addrFromSlice [0, 0, 0, 0, 0, 0, 0, 0, 0, 0, 0, 0, 10, 0, 0, 1] = some a ∧ ¬ Safe a := by
  refine ⟨by decide +kernel, .v6 0x0a000001#128, by decide +kernel, fun hsafe => ?_⟩
  have hcarried := hsafe.carried _ _ rfl (.compatible (by decide +kernel))
  exact absurd hcarried (by decide +kernel)

end MessagingGateway.Media
