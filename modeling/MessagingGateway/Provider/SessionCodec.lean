import MessagingGateway.Relational.Runs
import MessagingGateway.Store.Schema

/-!
# The session the hook hands over

The provider rotates the cookies and the token of a session at will, and the session
hook gives the encoded session to the actor. A session the codec does not accept is
dropped without an error. What the hook does hand over is accepted again and restores
the session, and a session stays acceptable under every response that keeps to the
bounds of the codec.
-/

namespace MessagingGateway.Provider

open Relational Domain Store

abbrev Cookies := AList fun _ : String => String

structure JWK where
  keyType : String
  curve : String
  d : Bytes
  x : Bytes
  y : Bytes
  deriving DecidableEq

structure Device where
  userId : Int
  sourceId : String
  network : String
  deriving DecidableEq

/-- `libgm.AuthData`: times in nanoseconds since the zero time, identifiers by their
bits. A map of cookies that is not there is `nil`. -/
structure AuthData where
  requestCrypto : Option (Bytes × Bytes)
  refreshKey : Option JWK
  browser : Option Device
  mobile : Option Device
  tachyonAuthToken : Bytes
  tachyonExpiry : Int
  tachyonTTL : Int
  webEncryptionKey : Bytes
  sessionId : Nat
  destRegId : Nat
  pairingId : Nat
  cookies : Option Cookies
  deriving DecidableEq

structure PushKeys where
  url : String
  p256dh : Bytes
  auth : Bytes
  deriving DecidableEq

structure SessionWire where
  version : Nat
  auth : AuthData
  push : Option PushKeys
  deriving DecidableEq

def sessionCodecVersion : Nat := 1
def maxEncodedSessionSize : Nat := 4 * 1024 * 1024
def maxSessionFieldSize : Nat := 64 * 1024
def maxDeviceIDSize : Nat := 256
def maxPushURLSize : Nat := 2048
def maxSessionCookieCount : Nat := 64
def maxCookieNameSize : Nat := 256

def requiredGoogleCookies : List String := ["SID", "HSID", "OSID", "SSID", "APISID", "SAPISID"]

structure Codec where
  /-- `json.Marshal`, which has no text for a time after the year 9999 -/
  marshal : SessionWire → Option Bytes
  /-- a strict `json.Decoder` that reads one value and nothing after it -/
  unmarshal : Bytes → Option SessionWire
  /-- the padded numbers are a private key and its public key -/
  p256 : Bytes → Bytes → Bytes → Bool
  /-- `url.Parse` gives the scheme `https` and a host -/
  httpsURL : String → Bool

/-- What `encoding/json` documents of these types: a text is not empty and gives the
value back. -/
structure Codec.RoundTrips (codec : Codec) : Prop where
  ne_nil : ∀ w b, codec.marshal w = some b → b ≠ []
  unmarshal : ∀ w b, codec.marshal w = some b → codec.unmarshal b = some w

/-! ### The codec -/

def validCookieName (name : String) : Bool :=
  name ≠ "" && name.utf8ByteSize ≤ maxCookieNameSize &&
    name.toList.all fun c => c.isAlphanum || c ∈ "!#$%&'*+-.^_`|~".toList

/-- The characters RFC 6265 calls cookie octets. -/
def cookieOctet (c : Char) : Bool :=
  c.toNat == 0x21 || (0x23 ≤ c.toNat && c.toNat ≤ 0x2b) || (0x2d ≤ c.toNat && c.toNat ≤ 0x3a) ||
    (0x3c ≤ c.toNat && c.toNat ≤ 0x5b) || (0x5d ≤ c.toNat && c.toNat ≤ 0x7e)

def validCookieValue (value : String) : Bool :=
  value.utf8ByteSize ≤ maxSessionFieldSize && value.toList.all cookieOctet

def filled (value : String) : Bool := trimSpace value.toList != []

def validFinishedSessionCookies (cookies : Cookies) : Bool :=
  requiredGoogleCookies.length ≤ cookies.entries.length &&
    cookies.entries.length ≤ maxSessionCookieCount &&
    (cookies.entries.all fun cookie => validCookieName cookie.1 && validCookieValue cookie.2) &&
    requiredGoogleCookies.all fun name => filled ((cookies.lookup name).getD "")

variable (codec : Codec)

def validP256PrivateKey (key : JWK) : Bool :=
  ([key.d, key.x, key.y].all fun number => number ≠ [] && number.length ≤ 32) &&
    codec.p256 key.d key.x key.y

def validDevice (device : Device) : Bool :=
  filled device.sourceId && device.sourceId.utf8ByteSize ≤ maxDeviceIDSize

/-- The part of `validSession` that no response changes. -/
def validKeys (auth : AuthData) (push : Option PushKeys) : Bool :=
  (auth.requestCrypto.any fun keys => keys.1.length == 32 && keys.2.length == 32) &&
    (auth.refreshKey.any fun key =>
      key.keyType == "EC" && key.curve == "P-256" && validP256PrivateKey codec key) &&
    auth.browser.any validDevice && auth.mobile.any validDevice &&
    auth.sessionId != 0 && auth.destRegId != 0 && auth.pairingId != 0 &&
    auth.webEncryptionKey.length ≤ maxSessionFieldSize &&
    push.all fun keys =>
      keys.url ≠ "" && keys.url.utf8ByteSize ≤ maxPushURLSize && codec.httpsURL keys.url &&
        keys.p256dh.length == 65 && keys.auth.length == 16

def validToken (auth : AuthData) : Bool :=
  auth.tachyonAuthToken ≠ [] && auth.tachyonAuthToken.length ≤ maxSessionFieldSize &&
    auth.tachyonExpiry != 0 && 0 < auth.tachyonTTL

def validSession (auth : AuthData) (push : Option PushKeys) : Bool :=
  validKeys codec auth push && validToken auth && auth.cookies.any validFinishedSessionCookies

def encodeSession (auth : AuthData) (push : Option PushKeys) : Option Bytes :=
  if validSession codec auth push then
    (codec.marshal ⟨sessionCodecVersion, auth, push⟩).filter (·.length ≤ maxEncodedSessionSize)
  else none

def decodeSession (encoded : Bytes) : Option (AuthData × Option PushKeys) :=
  if encoded = [] ∨ maxEncodedSessionSize < encoded.length then none
  else
    (codec.unmarshal encoded).bind fun wire =>
      if wire.version = sessionCodecVersion ∧ validSession codec wire.auth wire.push then
        some (wire.auth, wire.push)
      else none

/-- `runtimeProvider.sessionChanged`: what is given to `SessionChanged`, if anything. -/
def sessionChanged (auth : AuthData) (push : Option PushKeys) : Option Bytes :=
  encodeSession codec auth push

/-! ### What the provider changes -/

inductive Rotation
  | cookies (set : List (String × String))
  | token (now : Int) (token : Bytes) (ttl : Int)
  deriving DecidableEq

def wrap64 (n : Int) : Int := (n + 2 ^ 63) % 2 ^ 64 - 2 ^ 63

def validForDuration (ttl : Int) : Int :=
  if wrap64 (ttl * 1000) = 0 then 24 * 60 * 60 * 1000000000 else wrap64 (ttl * 1000)

def AuthData.setTachyonAuth (auth : AuthData) (token : Bytes) (expiry ttl : Int) : AuthData :=
  { auth with tachyonAuthToken := token, tachyonExpiry := expiry, tachyonTTL := ttl }

def AuthData.updateTachyonAuthToken (auth : AuthData) (now : Int) (token : Bytes) (ttl : Int) :
    AuthData :=
  auth.setTachyonAuth token (now + validForDuration ttl) ((validForDuration ttl).tdiv 1000)

def setCookies (cookies : Cookies) (set : List (String × String)) : Cookies :=
  set.foldl (fun cookies cookie => cookies.insert cookie.1 cookie.2) cookies

def AuthData.updateCookiesFromResponse (auth : AuthData) (set : List (String × String)) :
    AuthData :=
  { auth with cookies := auth.cookies.map (setCookies · set) }

def respond (response : Rotation) (auth : AuthData) : Unit × AuthData :=
  match response with
  | .cookies set => ((), auth.updateCookiesFromResponse set)
  | .token now token ttl => ((), auth.updateTachyonAuthToken now token ttl)

/-- `net/http` reads such a cookie: a token for its name, and in its value any printable
character but the quote, the semicolon and the backslash. -/
def httpCookie (cookie : String × String) : Bool :=
  cookie.1 ≠ "" && (cookie.1.toList.all fun c => c.isAlphanum || c ∈ "!#$%&'*+-.^_`|~".toList) &&
    cookie.2.toList.all fun c =>
      0x20 ≤ c.toNat && c.toNat < 0x7f && c.toNat != 0x22 && c.toNat != 0x3b && c.toNat != 0x5c

def Rotation.Readable : Rotation → Prop
  | .cookies set => set.all httpCookie
  | .token _ _ ttl => -2 ^ 63 ≤ ttl ∧ ttl < 2 ^ 63

def Rotation.Storable (auth : AuthData) : Rotation → Prop
  | .cookies set =>
    (∀ cookie ∈ set, validCookieName cookie.1 = true ∧ validCookieValue cookie.2 = true ∧
      (cookie.1 ∈ requiredGoogleCookies → filled cookie.2 = true)) ∧
    (auth.updateCookiesFromResponse set).cookies.all
      (fun cookies => cookies.entries.length ≤ maxSessionCookieCount) = true
  | .token now value ttl => validToken (auth.updateTachyonAuthToken now value ttl) = true

instance (response : Rotation) : Decidable response.Readable := by
  cases response <;> unfold Rotation.Readable <;> infer_instance

instance (auth : AuthData) (response : Rotation) : Decidable (response.Storable auth) := by
  cases response <;> unfold Rotation.Storable <;> infer_instance

/-! ### Storable responses keep a session valid -/

/-- All of `validFinishedSessionCookies` but the upper bound. -/
structure Kept (cookies : Cookies) : Prop where
  count : requiredGoogleCookies.length ≤ cookies.entries.length
  each : ∀ cookie ∈ cookies.entries,
    validCookieName cookie.1 = true ∧ validCookieValue cookie.2 = true
  required : ∀ name ∈ requiredGoogleCookies, filled ((cookies.lookup name).getD "") = true

variable {cookies : Cookies}

theorem validFinishedSessionCookies_iff :
    validFinishedSessionCookies cookies = true ↔
      Kept cookies ∧ cookies.entries.length ≤ maxSessionCookieCount := by
  simp only [validFinishedSessionCookies, Bool.and_eq_true, decide_eq_true_eq, List.all_eq_true]
  exact ⟨fun ⟨⟨⟨hcount, hmax⟩, heach⟩, hrequired⟩ => ⟨⟨hcount, heach, hrequired⟩, hmax⟩,
    fun ⟨h, hmax⟩ => ⟨⟨⟨h.count, hmax⟩, h.each⟩, h.required⟩⟩

theorem Kept.insert (h : Kept cookies) {name value : String}
    (hname : validCookieName name = true) (hvalue : validCookieValue value = true)
    (hfilled : name ∈ requiredGoogleCookies → filled value = true) :
    Kept (cookies.insert name value) where
  count := by
    refine h.count.trans ?_
    rw [AList.entries_insert, List.length_cons, List.kerase, List.length_eraseP]
    split <;> omega
  each cookie hcookie := by
    rw [AList.entries_insert, List.mem_cons] at hcookie
    rcases hcookie with rfl | hold
    · exact ⟨hname, hvalue⟩
    · exact h.each cookie ((List.kerase_sublist name cookies.entries).subset hold)
  required required hrequired := by
    by_cases hsame : required = name
    · subst hsame
      rw [AList.lookup_insert]
      exact hfilled hrequired
    · rw [AList.lookup_insert_ne hsame]
      exact h.required required hrequired

theorem Kept.setCookies (h : Kept cookies) {set : List (String × String)}
    (hset : ∀ cookie ∈ set, validCookieName cookie.1 = true ∧ validCookieValue cookie.2 = true ∧
      (cookie.1 ∈ requiredGoogleCookies → filled cookie.2 = true)) :
    Kept (setCookies cookies set) := by
  induction set generalizing cookies with
  | nil => exact h
  | cons cookie set ih =>
    obtain ⟨hname, hvalue, hfilled⟩ := hset cookie (.head _)
    exact ih (h.insert hname hvalue hfilled) fun c hc => hset c (.tail _ hc)

variable {codec}

variable {auth : AuthData} {push : Option PushKeys}

theorem validSession_respond {response : Rotation}
    (hvalid : validSession codec auth push = true) (hstorable : response.Storable auth) :
    validSession codec (respond response auth).2 push = true := by
  simp only [validSession, Bool.and_eq_true] at hvalid ⊢
  obtain ⟨⟨hkeys, htoken⟩, hcookies⟩ := hvalid
  cases response with
  | token now token ttl => exact ⟨⟨hkeys, hstorable⟩, hcookies⟩
  | cookies set =>
    refine ⟨⟨hkeys, htoken⟩, ?_⟩
    obtain ⟨cookies, hsome, hfinished⟩ := (Option.any_eq_true _ _).1 hcookies
    obtain ⟨hset, hmax⟩ := hstorable
    simp only [respond, AuthData.updateCookiesFromResponse, hsome, Option.map_some,
      Option.any_some, Option.all_some, decide_eq_true_eq] at hmax ⊢
    obtain ⟨hkept, -⟩ := validFinishedSessionCookies_iff.1 hfinished
    exact validFinishedSessionCookies_iff.2 ⟨hkept.setCookies hset, hmax⟩

theorem encodeSession_restores (hcodec : codec.RoundTrips)
    {b : Bytes} (h : encodeSession codec auth push = some b) :
    decodeSession codec b = some (auth, push) := by
  unfold encodeSession at h
  split at h
  · next hvalid =>
    obtain ⟨hmarshal, hsize⟩ := Option.filter_eq_some_iff.1 h
    have hsmall : ¬ (b = [] ∨ maxEncodedSessionSize < b.length) := by
      rintro (hnil | hlarge)
      · exact hcodec.ne_nil _ _ hmarshal hnil
      · exact absurd hlarge (Nat.not_lt.2 (by simpa using hsize))
    rw [decodeSession, if_neg hsmall, hcodec.unmarshal _ _ hmarshal]
    exact if_pos ⟨rfl, hvalid⟩
  · exact absurd h nofun

/-- The private key 1, whose public key is the generator of the curve. -/
def generatorKey : JWK where
  keyType := "EC"
  curve := "P-256"
  d := [1]
  x := [107, 23, 209, 242, 225, 44, 66, 71, 248, 188, 230, 229, 99, 164, 64, 242, 119, 3, 125, 129,
    45, 235, 51, 160, 244, 161, 57, 69, 216, 152, 194, 150]
  y := [79, 227, 66, 226, 254, 26, 127, 155, 142, 231, 235, 74, 124, 15, 158, 22, 43, 206, 51, 87,
    107, 49, 94, 206, 203, 182, 64, 104, 55, 191, 81, 245]

def pairedAuth : AuthData where
  requestCrypto := some (List.replicate 32 1, List.replicate 32 2)
  refreshKey := some generatorKey
  browser := some ⟨1, "browser", "GDitto"⟩
  mobile := some ⟨1, "mobile", "Bugle"⟩
  tachyonAuthToken := [1]
  tachyonExpiry := 1
  tachyonTTL := 1
  webEncryptionKey := []
  sessionId := 1
  destRegId := 1
  pairingId := 1
  cookies := some (setCookies ∅ (requiredGoogleCookies.map fun name => (name, "one")))

/-- A new cookie, and at the start of 2026 a token for an hour. -/
def rotation : List Rotation :=
  [.cookies [("__Secure-rotation", "two")], .token 63902822400000000000 [7] 3600000000]

def rotatedAuth : AuthData := (execute respond rotation pairedAuth).2

def jsonString (value : String) : String := "\"" ++ value ++ "\""

def jsonObject (members : List (String × String)) : String :=
  "\x7b" ++ ",".intercalate (members.map fun m => jsonString m.1 ++ ":" ++ m.2) ++ "\x7d"

/-- What `json.Marshal` gives for the rotated session. -/
def rotatedText : Bytes :=
  (jsonObject [("version", "1"), ("auth", jsonObject [
    ("request_crypto", jsonObject [
      ("aes_key", jsonString "AQEBAQEBAQEBAQEBAQEBAQEBAQEBAQEBAQEBAQEBAQE="),
      ("hmac_key", jsonString "AgICAgICAgICAgICAgICAgICAgICAgICAgICAgICAgI=")]),
    ("refresh_key", jsonObject [("kty", jsonString "EC"), ("crv", jsonString "P-256"),
      ("d", jsonString "AQ"), ("x", jsonString "axfR8uEsQkf4vOblY6RA8ncDfYEt6zOg9KE5RdiYwpY"),
      ("y", jsonString "T-NC4v4af5uO5-tKfA-eFivOM1drMV7Oy7ZAaDe_UfU")]),
    ("browser", jsonObject [("userID", "1"), ("sourceID", jsonString "browser"),
      ("network", jsonString "GDitto")]),
    ("mobile", jsonObject [("userID", "1"), ("sourceID", jsonString "mobile"),
      ("network", jsonString "Bugle")]),
    ("tachyon_token", jsonString "Bw=="), ("tachyon_expiry", jsonString "2026-01-01T01:00:00Z"),
    ("tachyon_ttl", "3600000000"),
    ("session_id", jsonString "00000000-0000-0000-0000-000000000001"),
    ("dest_reg_id", jsonString "00000000-0000-0000-0000-000000000001"),
    ("pairing_id", jsonString "00000000-0000-0000-0000-000000000001"),
    ("cookies", jsonObject (["APISID", "HSID", "OSID", "SAPISID", "SID", "SSID"].map
      (·, jsonString "one") ++ [("__Secure-rotation", jsonString "two")]))])]).toUTF8.data.toList

/-- The library on the rotated session and its key. -/
def rotatedCodec : Codec where
  marshal w := if w = ⟨sessionCodecVersion, rotatedAuth, none⟩ then some rotatedText else none
  unmarshal b := if b = rotatedText then some ⟨sessionCodecVersion, rotatedAuth, none⟩ else none
  p256 d x y := d == generatorKey.d && x == generatorKey.x && y == generatorKey.y
  httpsURL _ := false

theorem rotatedCodec_roundTrips : rotatedCodec.RoundTrips := by
  constructor <;> intro w b h <;> simp only [rotatedCodec, Option.ite_none_right_eq_some,
    Option.some.injEq] at h <;> obtain ⟨rfl, rfl⟩ := h
  · decide +kernel
  · simp only [rotatedCodec, if_true]

end MessagingGateway.Provider
