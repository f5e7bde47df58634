import PgliteOxide.Lib.IpAddr
import PgliteOxide.Lib.PathBuf
import PgliteOxide.Lib.Uri
import PgliteOxide.Pglite.Config

/-!
# The connection URI

`connection_uri` of `server.rs`, and how a client reads it: the URI is split into its components,
which are percent-decoded, and `host` and `port` parameters stand before the authority's. The URI
gives back the startup settings and the endpoint unless a username, a database or a socket path
has something in it that the server would have to encode.
-/

namespace PgliteOxide.Pglite

open Lib

/-- `SocketAddr`. -/
inductive SocketAddr where
  | v4 (ip : Ipv4Addr) (port : UInt16)
  | v6 (ip : Ipv6Addr) (port : UInt16)
deriving DecidableEq

inductive ServerEndpoint where
  | tcp (addr : SocketAddr)
  | unix (path : Bytes)
deriving DecidableEq

/-! ## The server -/

/-- `Display` of a number. -/
def decimal (n : Nat) : Bytes := utf8 (String.ofList (Nat.toDigits 10 n))

/-- `str::parse::<u16>`. -/
def parseU16 (text : List Char) : Option UInt16 :=
  match readNumber 10 (if text.head? = some '+' then text.tail else text) with
  | some n => if n < 65536 then some (UInt16.ofNat n) else none
  | none => none

def socketPrefix : List Char := ".s.PGSQL.".toList

/-- `parse_unix_socket_port`. -/
def parseUnixSocketPort (path : Bytes) : Option UInt16 := do
  let name ← pathFileName path
  let name ← fromUtf8 name
  let number ← name.toList.dropPrefix? socketPrefix
  parseU16 number

/-- The bytes that `percent_encode_query_value` keeps: letters, digits and `-._~/`. -/
def keepsQueryByte (byte : UInt8) : Bool :=
  (65 ≤ byte && byte ≤ 90) || (97 ≤ byte && byte ≤ 122) || (48 ≤ byte && byte ≤ 57)
    || byte == 45 || byte == 46 || byte == 95 || byte == 126 || byte == 47

def percentEncodeQueryValue (value : Bytes) : Bytes := percentEncode keepsQueryByte value

/-- `tcp_connection_uri`. -/
def tcpConnectionUri (addr : SocketAddr) (startup : StartupConfig) : Bytes :=
  match addr with
  | .v4 ip port =>
    utf8 "postgresql://" ++ utf8 startup.username ++ utf8 "@" ++ utf8 (String.ofList ip.text)
      ++ utf8 ":" ++ decimal port.toNat ++ utf8 "/" ++ utf8 startup.database
      ++ utf8 "?sslmode=disable"
  | .v6 ip port =>
    utf8 "postgresql://" ++ utf8 startup.username ++ utf8 "@[" ++ utf8 (String.ofList ip.text)
      ++ utf8 "]:" ++ decimal port.toNat ++ utf8 "/" ++ utf8 startup.database
      ++ utf8 "?sslmode=disable"

/-- `connection_uri`, as its bytes. -/
def connectionUri (endpoint : ServerEndpoint) (startup : StartupConfig) : Bytes :=
  match endpoint with
  | .tcp addr => tcpConnectionUri addr startup
  | .unix path =>
    let host := (pathParent path).getD (utf8 "/tmp")
    let port := (parseUnixSocketPort path).getD 5432
    utf8 "postgresql://" ++ utf8 startup.username ++ utf8 "@/" ++ utf8 startup.database
      ++ utf8 "?host=" ++ percentEncodeQueryValue (toStringLossy host)
      ++ utf8 "&port=" ++ decimal port.toNat ++ utf8 "&sslmode=disable"

example : connectionUri (.unix (utf8 "/tmp/my db/.s.PGSQL.5433")) StartupConfig.default
    = utf8 "postgresql://postgres@/template1?host=/tmp/my%20db&port=5433&sslmode=disable" := by
  decide +kernel

/-! ## The client -/

structure ConnectionInfo where
  user : Bytes
  database : Bytes
  host : Bytes
  port : Bytes
deriving DecidableEq

def decodeParam (param : Bytes × Bytes) : Option (Bytes × Bytes) := do
  return (← percentDecode param.1, ← percentDecode param.2)

/-- The reading of a connection URI: RFC 3986 splitting and percent-decoding. -/
def readConnectionUri (uri : Bytes) : Option ConnectionInfo := do
  let rest ← uri.dropPrefix? (utf8 "postgresql://")
  let parts := splitUri rest
  let authority := splitAuthority parts.authority
  let user ← percentDecode authority.user
  let host ← percentDecode authority.host
  let port ← percentDecode authority.port
  let database ← percentDecode (parts.path.drop 1)
  let params ← (splitQuery parts.query).mapM decodeParam
  return {
    user, database
    host := (params.lookup (utf8 "host")).getD host
    port := (params.lookup (utf8 "port")).getD port
  }

def charsOf (text : Bytes) : Option (List Char) := (fromUtf8 text).map String.toList

/-- A host and a port denote an endpoint: the address with these texts, or the socket of the port
in the host's directory. -/
def ServerEndpoint.DenotedBy (endpoint : ServerEndpoint) (host port : Bytes) : Prop :=
  match endpoint with
  | .tcp (.v4 ip number) =>
    (charsOf host).bind Ipv4Addr.parse = some ip ∧ (charsOf port).bind parseU16 = some number
  | .tcp (.v6 ip number) =>
    (charsOf host).bind Ipv6Addr.parse = some ip ∧ (charsOf port).bind parseU16 = some number
  | .unix path =>
    host.head? = some 47 ∧
      pathComponents (host ++ 47 :: (utf8 ".s.PGSQL." ++ port)) = pathComponents path

/-- The URI gives back the startup settings and the endpoint. -/
def RoundTrips (endpoint : ServerEndpoint) (startup : StartupConfig) : Prop :=
  ∃ info, readConnectionUri (connectionUri endpoint startup) = some info ∧
    info.user = utf8 startup.username ∧ info.database = utf8 startup.database ∧
    endpoint.DenotedBy info.host info.port

/-! ## The components of the URI -/

/-- The host and the port in the authority. -/
def hostPortOf : ServerEndpoint → Bytes
  | .tcp (.v4 ip port) => utf8 (String.ofList ip.text) ++ 58 :: decimal port.toNat
  | .tcp (.v6 ip port) => 91 :: (utf8 (String.ofList ip.text) ++ 93 :: 58 :: decimal port.toNat)
  | .unix _ => []

def socketHost (path : Bytes) : Bytes := toStringLossy ((pathParent path).getD (utf8 "/tmp"))

def socketPort (path : Bytes) : UInt16 := (parseUnixSocketPort path).getD 5432

def paramsOf : ServerEndpoint → List (Bytes × Bytes)
  | .tcp _ => [(utf8 "sslmode", utf8 "disable")]
  | .unix path => [(utf8 "host", percentEncodeQueryValue (socketHost path)),
      (utf8 "port", decimal (socketPort path).toNat), (utf8 "sslmode", utf8 "disable")]

def uriText (endpoint : ServerEndpoint) (user database : Bytes) : Bytes :=
  user ++ 64 :: (hostPortOf endpoint ++ 47 :: (database ++ 63 :: joinParams (paramsOf endpoint)))

lemma connectionUri_eq (endpoint : ServerEndpoint) (startup : StartupConfig) :
    connectionUri endpoint startup
      = utf8 "postgresql://"
        ++ uriText endpoint (utf8 startup.username) (utf8 startup.database) := by
  have hat : utf8 "@" = [64] := by decide
  have hbracket : utf8 "@[" = [64, 91] := by decide
  have hend : utf8 "]:" = [93, 58] := by decide
  have hcolon : utf8 ":" = [58] := by decide
  have hslash : utf8 "/" = [47] := by decide
  have hempty : utf8 "@/" = [64, 47] := by decide
  have hmode : utf8 "?sslmode=disable" = 63 :: (utf8 "sslmode" ++ 61 :: utf8 "disable") := by
    decide
  have hhost : utf8 "?host=" = 63 :: (utf8 "host" ++ [61]) := by decide
  have hport : utf8 "&port=" = 38 :: (utf8 "port" ++ [61]) := by decide
  have hmodeParam : utf8 "&sslmode=disable" = 38 :: (utf8 "sslmode" ++ 61 :: utf8 "disable") := by
    decide
  unfold uriText joinParams
  rcases endpoint with (⟨ip, port⟩ | ⟨ip, port⟩) | path
  · show utf8 "postgresql://" ++ utf8 startup.username ++ utf8 "@" ++ _ ++ utf8 ":" ++ _
      ++ utf8 "/" ++ _ ++ utf8 "?sslmode=disable" = _
    rw [hat, hcolon, hslash, hmode]
    simp [hostPortOf, paramsOf, List.intercalate]
  · show utf8 "postgresql://" ++ utf8 startup.username ++ utf8 "@[" ++ _ ++ utf8 "]:" ++ _
      ++ utf8 "/" ++ _ ++ utf8 "?sslmode=disable" = _
    rw [hbracket, hend, hslash, hmode]
    simp [hostPortOf, paramsOf, List.intercalate]
  · show utf8 "postgresql://" ++ utf8 startup.username ++ utf8 "@/" ++ _ ++ utf8 "?host="
      ++ percentEncodeQueryValue (socketHost path) ++ utf8 "&port="
      ++ decimal (socketPort path).toNat ++ utf8 "&sslmode=disable" = _
    rw [hempty, hhost, hport, hmodeParam]
    simp [hostPortOf, paramsOf, List.intercalate]

/-! ## Bytes of an address -/

def addressBytes : Bytes := utf8 "0123456789abcdef.:"

lemma mem_addressBytes {c : Char}
    (h : c = ':' ∨ c = '.' ∨ ('0' ≤ c ∧ c ≤ '9') ∨ ('a' ≤ c ∧ c ≤ 'f')) :
    c.toNat < 128 ∧ UInt8.ofNat c.toNat ∈ addressBytes := by
  have hall : ∀ n < 128, (48 ≤ n ∧ n ≤ 57) ∨ (97 ≤ n ∧ n ≤ 102) →
      UInt8.ofNat n ∈ addressBytes := by
    decide
  have hrange : ∀ {lo hi : Char}, lo ≤ c ∧ c ≤ hi → lo.toNat ≤ c.toNat ∧ c.toNat ≤ hi.toNat := by
    intro lo hi hc
    exact ⟨UInt32.le_iff_toNat_le.mp hc.1, UInt32.le_iff_toNat_le.mp hc.2⟩
  rcases h with h | h | h | h
  · rw [h]
    decide
  · rw [h]
    decide
  · have hdigit : 48 ≤ c.toNat ∧ c.toNat ≤ 57 := hrange h
    exact ⟨by omega, hall _ (by omega) (Or.inl hdigit)⟩
  · have hletter : 97 ≤ c.toNat ∧ c.toNat ≤ 102 := hrange h
    exact ⟨by omega, hall _ (by omega) (Or.inr hletter)⟩

/-- A byte of an ASCII text is one of its characters. -/
lemma exists_char_of_mem {text : List Char} (h : ∀ c ∈ text, c.toNat < 128) {b : UInt8}
    (hb : b ∈ utf8 (String.ofList text)) : ∃ c ∈ text, b = UInt8.ofNat c.toNat := by
  rw [utf8_ofList] at hb
  obtain ⟨c, hc, hmem⟩ := List.mem_flatMap.mp hb
  rw [utf8EncodeChar_ascii (h c hc), List.mem_singleton] at hmem
  exact ⟨c, hc, hmem⟩

lemma mem_address {text : List Char}
    (h : ∀ c ∈ text, c = ':' ∨ c = '.' ∨ ('0' ≤ c ∧ c ≤ '9') ∨ ('a' ≤ c ∧ c ≤ 'f')) :
    ∀ b ∈ utf8 (String.ofList text), b ∈ addressBytes := by
  intro b hb
  obtain ⟨c, hc, hbyte⟩ := exists_char_of_mem (fun c hc => (mem_addressBytes (h c hc)).1) hb
  rw [hbyte]
  exact (mem_addressBytes (h c hc)).2

lemma mem_ipv4 (ip : Ipv4Addr) : ∀ b ∈ utf8 (String.ofList ip.text), b ∈ addressBytes :=
  mem_address fun c hc => Or.inr (ip.text_chars c hc)

lemma mem_ipv6 (ip : Ipv6Addr) : ∀ b ∈ utf8 (String.ofList ip.text), b ∈ addressBytes :=
  mem_address ip.text_chars

lemma mem_decimal (n : Nat) : ∀ b ∈ decimal n, b ∈ addressBytes :=
  mem_address fun c hc => Or.inr (Or.inr (toDigits_chars (by decide) (by decide) n c hc))

/-- None of the bytes that separate the components is one of an address. -/
lemma not_mem_of_address {text : Bytes} (h : ∀ b ∈ text, b ∈ addressBytes) {b : UInt8}
    (hb : b ∉ addressBytes) : b ∉ text := fun hmem => hb (h b hmem)

/-! ## What a client reads -/

/-- The host and the port that the authority gives. -/
def authorityOf : ServerEndpoint → Bytes × Bytes
  | .tcp (.v4 ip port) => (utf8 (String.ofList ip.text), decimal port.toNat)
  | .tcp (.v6 ip port) => (utf8 (String.ofList ip.text), decimal port.toNat)
  | .unix _ => ([], [])

/-- The host and the port of an endpoint. -/
def addressOf : ServerEndpoint → Bytes × Bytes
  | .tcp addr => authorityOf (.tcp addr)
  | .unix path => (socketHost path, decimal (socketPort path).toNat)

lemma hostPortOf_free (endpoint : ServerEndpoint) :
    ∀ b ∈ hostPortOf endpoint, b ∉ ([64, 47, 63, 35] : Bytes) := by
  have hfree : ∀ b ∈ 91 :: 93 :: 58 :: addressBytes, b ∉ ([64, 47, 63, 35] : Bytes) := by
    decide +kernel
  have haddress : ∀ {b}, b ∈ addressBytes → b ∈ 91 :: 93 :: 58 :: addressBytes := fun hb =>
    List.mem_cons_of_mem _ (List.mem_cons_of_mem _ (List.mem_cons_of_mem _ hb))
  rcases endpoint with (⟨ip, port⟩ | ⟨ip, port⟩) | path
  · intro b hb
    apply hfree b
    rcases List.mem_append.mp hb with hb | hb
    · exact haddress (mem_ipv4 ip b hb)
    · rcases List.mem_cons.mp hb with hb | hb
      · simp [hb]
      · exact haddress (mem_decimal _ b hb)
  · intro b hb
    apply hfree b
    rcases List.mem_cons.mp hb with hb | hb
    · simp [hb]
    · rcases List.mem_append.mp hb with hb | hb
      · exact haddress (mem_ipv6 ip b hb)
      · rcases List.mem_cons.mp hb with hb | hb
        · simp [hb]
        · rcases List.mem_cons.mp hb with hb | hb
          · simp [hb]
          · exact haddress (mem_decimal _ b hb)
  · exact fun b hb => absurd hb List.not_mem_nil

lemma splitHostPort_hostPortOf (endpoint : ServerEndpoint) :
    splitHostPort (hostPortOf endpoint) = authorityOf endpoint := by
  rcases endpoint with (⟨ip, port⟩ | ⟨ip, port⟩) | path
  · have hbracket : (utf8 (String.ofList ip.text)).head? ≠ some 91 := fun h =>
      not_mem_of_address (mem_ipv4 ip) (by decide) (List.mem_of_mem_head? h)
    have hcolon : 58 ∉ utf8 (String.ofList ip.text) := by
      intro hmem
      have hascii : ∀ c ∈ ip.text, c.toNat < 128 := fun c hc =>
        (mem_addressBytes (Or.inr (ip.text_chars c hc))).1
      obtain ⟨c, hc, hbyte⟩ := exists_char_of_mem hascii hmem
      have hsame : c = ':' := by
        have hnat := congrArg UInt8.toNat hbyte
        have hlt := hascii c hc
        rw [UInt8.toNat_ofNat_of_lt' (by show _ < 256; omega)] at hnat
        exact Char.toNat_inj.mp hnat.symm
      rw [hsame] at hc
      rcases ip.text_chars _ hc with hc | hc
      · exact absurd hc (by decide)
      · exact absurd hc (by decide)
    exact splitHostPort_plain hbracket hcolon _
  · exact splitHostPort_bracket (not_mem_of_address (mem_ipv6 ip) (by decide)) _
  · rfl

lemma percentDecode_address {text : Bytes} (h : ∀ b ∈ text, b ∈ addressBytes) :
    percentDecode text = some text :=
  percentDecode_of_not_mem (not_mem_of_address h (by decide))

lemma percentDecode_query (value : Bytes) :
    percentDecode (percentEncodeQueryValue value) = some value :=
  percentDecode_percentEncode (by decide) value

/-- A username that a URI can have as it is: nothing in it ends it, and no percent sign. -/
def PlainUser (user : Bytes) : Prop := (∀ b ∈ user, b ∉ userStops) ∧ 37 ∉ user

/-- A database that a URI can have as it is. -/
def PlainDatabase (database : Bytes) : Prop :=
  (∀ b ∈ database, b ∉ ([63, 35] : Bytes)) ∧ 37 ∉ database

lemma uriText_eq (endpoint : ServerEndpoint) (user database : Bytes) :
    uriText endpoint user database = (user ++ 64 :: hostPortOf endpoint)
      ++ 47 :: (database ++ 63 :: joinParams (paramsOf endpoint)) := by
  unfold uriText
  rw [List.append_assoc, List.cons_append]

/-- No separator is in a name or a value of the parameters. -/
lemma paramsOf_free (endpoint : ServerEndpoint) {b : UInt8}
    (hb : b ∈ ([35, 38, 61] : Bytes)) :
    ∀ param ∈ paramsOf endpoint, b ∉ param.1 ∧ b ∉ param.2 := by
  have hconst : ∀ b ∈ ([35, 38, 61] : Bytes), b ∉ utf8 "sslmode" ∧ b ∉ utf8 "disable" ∧
      b ∉ utf8 "host" ∧ b ∉ utf8 "port" ∧ b ∉ addressBytes := by
    decide +kernel
  obtain ⟨hmode, hdisable, hhost, hport, haddress⟩ := hconst b hb
  have hencoded : ∀ value, b ∉ percentEncodeQueryValue value := by
    intro value hmem
    have hkeep : ∀ b ∈ ([35, 38, 61] : Bytes), keepsQueryByte b = false ∧ b ≠ 37 ∧
        ∀ n < 16, b ≠ upperHexDigit (UInt8.ofNat n) := by
      decide +kernel
    obtain ⟨hnot, hpercent, hdigit⟩ := hkeep b hb
    rcases mem_percentEncode hmem with h | h | ⟨n, hn, h⟩
    · rw [hnot] at h
      cases h
    · exact hpercent h
    · apply hdigit n.toNat (UInt8.lt_iff_toNat_lt.mp hn)
      rw [UInt8.ofNat_toNat]
      exact h
  rcases endpoint with addr | path
  · intro param hparam
    rw [List.mem_singleton.mp hparam]
    exact ⟨hmode, hdisable⟩
  · intro param hparam
    simp only [paramsOf, List.mem_cons, List.not_mem_nil, or_false] at hparam
    rcases hparam with hparam | hparam | hparam
    · rw [hparam]
      exact ⟨hhost, hencoded _⟩
    · rw [hparam]
      exact ⟨hport, not_mem_of_address (mem_decimal _) haddress⟩
    · rw [hparam]
      exact ⟨hmode, hdisable⟩

section

variable (endpoint : ServerEndpoint) {user : Bytes} (huser : PlainUser user)

include huser

lemma authority_free : ∀ b ∈ user ++ 64 :: hostPortOf endpoint, b ∉ ([47, 63, 35] : Bytes) := by
  intro b hb hstop
  have hat : (64 : UInt8) ∉ ([47, 63, 35] : Bytes) := by decide
  rcases List.mem_append.mp hb with hb | hb
  · exact huser.1 b hb (List.mem_cons_of_mem _ (List.mem_cons_of_mem _ hstop))
  · rcases List.mem_cons.mp hb with hb | hb
    · rw [hb] at hstop
      exact hat hstop
    · exact hostPortOf_free endpoint b hb (List.mem_cons_of_mem _ hstop)

lemma uriText_authority (database : Bytes) :
    splitAuthority (splitUri (uriText endpoint user database)).authority
      = ⟨user, (authorityOf endpoint).1, (authorityOf endpoint).2⟩ := by
  rw [uriText_eq, splitUri_authority (authority_free endpoint huser), splitAuthority_eq huser.1,
    splitHostPort_hostPortOf]

lemma uriText_path (database : Bytes) :
    (splitUri (uriText endpoint user database)).path.drop 1
      = before [63, 35] (database ++ 63 :: joinParams (paramsOf endpoint)) := by
  rw [uriText_eq, splitUri_path (authority_free endpoint huser)]
  rfl

lemma uriText_query {database : Bytes} (hdatabase : PlainDatabase database) :
    splitQuery (splitUri (uriText endpoint user database)).query = paramsOf endpoint := by
  have hne : paramsOf endpoint ≠ [] := by
    rcases endpoint with addr | path
    · exact List.cons_ne_nil _ _
    · exact List.cons_ne_nil _ _
  have hquery : 35 ∉ joinParams (paramsOf endpoint) :=
    not_mem_joinParams (by decide) (by decide) (paramsOf_free endpoint (by decide))
  rw [uriText_eq, splitUri_query (authority_free endpoint huser) hdatabase.1 hquery]
  exact splitQuery_joinParams hne (fun param hparam => (paramsOf_free endpoint (by decide) param
    hparam).1) (paramsOf_free endpoint (by decide))

end

lemma decode_paramsOf (endpoint : ServerEndpoint) :
    ∃ params, (paramsOf endpoint).mapM decodeParam = some params ∧
      (params.lookup (utf8 "host")).getD (authorityOf endpoint).1 = (addressOf endpoint).1 ∧
      (params.lookup (utf8 "port")).getD (authorityOf endpoint).2 = (addressOf endpoint).2 := by
  have hmode : decodeParam (utf8 "sslmode", utf8 "disable")
      = some (utf8 "sslmode", utf8 "disable") := by
    decide
  have hhost : percentDecode (utf8 "host") = some (utf8 "host") := by decide
  have hport : percentDecode (utf8 "port") = some (utf8 "port") := by decide
  rcases endpoint with addr | path
  · refine ⟨[(utf8 "sslmode", utf8 "disable")], by simp [paramsOf, hmode], ?_⟩
    -- no parameter stands before the authority
    have hkeys : (utf8 "host" == utf8 "sslmode") = false ∧
        (utf8 "port" == utf8 "sslmode") = false := by
      decide
    rw [List.lookup_cons, List.lookup_cons, hkeys.1, hkeys.2]
    exact ⟨rfl, rfl⟩
  · have hhostParam : decodeParam (utf8 "host", percentEncodeQueryValue (socketHost path))
        = some (utf8 "host", socketHost path) := by
      unfold decodeParam
      rw [hhost, percentDecode_query]
      rfl
    have hportParam : decodeParam (utf8 "port", decimal (socketPort path).toNat)
        = some (utf8 "port", decimal (socketPort path).toNat) := by
      unfold decodeParam
      rw [hport, percentDecode_address (mem_decimal _)]
      rfl
    refine ⟨[(utf8 "host", socketHost path), (utf8 "port", decimal (socketPort path).toNat),
      (utf8 "sslmode", utf8 "disable")], ?_, ?_, ?_⟩
    · simp [paramsOf, hmode, hhostParam, hportParam]
    · rw [List.lookup_cons_self]
      rfl
    · have hkey : (utf8 "port" == utf8 "host") = false := by decide
      rw [List.lookup_cons, hkey]
      dsimp only
      rw [List.lookup_cons_self]
      rfl

/-- **What a client reads** from a URI with a plain username and a plain database. -/
lemma readConnectionUri_uriText (endpoint : ServerEndpoint) {user database : Bytes}
    (huser : PlainUser user) (hdatabase : PlainDatabase database) :
    readConnectionUri (utf8 "postgresql://" ++ uriText endpoint user database)
      = some ⟨user, database, (addressOf endpoint).1, (addressOf endpoint).2⟩ := by
  obtain ⟨params, hparams, hhost, hport⟩ := decode_paramsOf endpoint
  have hstarts : (utf8 "postgresql://" ++ uriText endpoint user database).dropPrefix?
      (utf8 "postgresql://") = some (uriText endpoint user database) :=
    List.dropPrefix?_append_of_beq _ (beq_self_eq_true _)
  have haddress : percentDecode (authorityOf endpoint).1 = some (authorityOf endpoint).1 ∧
      percentDecode (authorityOf endpoint).2 = some (authorityOf endpoint).2 := by
    rcases endpoint with (⟨ip, port⟩ | ⟨ip, port⟩) | path
    · exact ⟨percentDecode_address (mem_ipv4 ip), percentDecode_address (mem_decimal _)⟩
    · exact ⟨percentDecode_address (mem_ipv6 ip), percentDecode_address (mem_decimal _)⟩
    · exact ⟨rfl, rfl⟩
  have hpath : before [63, 35] (database ++ 63 :: joinParams (paramsOf endpoint)) = database := by
    rw [before_append hdatabase.1, before_cons (by decide), List.append_nil]
  unfold readConnectionUri
  rw [hstarts]
  dsimp only [Option.bind_eq_bind, Option.bind_some]
  rw [uriText_authority endpoint huser, uriText_path endpoint huser, hpath,
    uriText_query endpoint huser hdatabase]
  dsimp only
  rw [percentDecode_of_not_mem huser.2, haddress.1, haddress.2,
    percentDecode_of_not_mem hdatabase.2, hparams]
  dsimp only [Option.bind_some]
  rw [hhost, hport]
  rfl

/-- **Only a plain username and a plain database are read back.** -/
lemma plain_of_readConnectionUri {endpoint : ServerEndpoint} {user database : Bytes}
    {info : ConnectionInfo} (hne : user ≠ [])
    (h : readConnectionUri (utf8 "postgresql://" ++ uriText endpoint user database) = some info)
    (huser : info.user = user) (hdatabase : info.database = database) :
    PlainUser user ∧ PlainDatabase database := by
  have hstarts : (utf8 "postgresql://" ++ uriText endpoint user database).dropPrefix?
      (utf8 "postgresql://") = some (uriText endpoint user database) :=
    List.dropPrefix?_append_of_beq _ (beq_self_eq_true _)
  unfold readConnectionUri at h
  rw [hstarts] at h
  obtain ⟨text, htext, h⟩ := Option.bind_eq_some_iff.mp h
  rw [← Option.some.inj htext] at h
  obtain ⟨decodedUser, hdecodedUser, h⟩ := Option.bind_eq_some_iff.mp h
  obtain ⟨host, -, h⟩ := Option.bind_eq_some_iff.mp h
  obtain ⟨port, -, h⟩ := Option.bind_eq_some_iff.mp h
  obtain ⟨decodedDatabase, hdecodedDatabase, h⟩ := Option.bind_eq_some_iff.mp h
  obtain ⟨params, -, h⟩ := Option.bind_eq_some_iff.mp h
  have hinfo := Option.some.inj h
  rw [← hinfo] at huser hdatabase
  dsimp only at huser hdatabase
  rw [huser] at hdecodedUser
  rw [hdatabase] at hdecodedDatabase
  have hplain : PlainUser user := user_of_splitUri hne hdecodedUser
  rw [uriText_path endpoint hplain] at hdecodedDatabase
  exact ⟨hplain, percentDecode_before (by decide) hdecodedDatabase⟩

/-! ## The endpoint -/

lemma charsOf_utf8 (text : List Char) : charsOf (utf8 (String.ofList text)) = some text := by
  unfold charsOf
  rw [fromUtf8_utf8, Option.map_some, String.toList_ofList]

lemma parseU16_toDigits (port : UInt16) : parseU16 (Nat.toDigits 10 port.toNat) = some port := by
  have hlt : port.toNat < 65536 := port.toNat_lt
  have hplus : (Nat.toDigits 10 port.toNat).head? ≠ some '+' := fun h =>
    not_mem_toDigits (by decide) (by decide) port.toNat (by decide) (List.mem_of_mem_head? h)
  unfold parseU16
  rw [if_neg hplus, readNumber_toDigits (by decide) (by decide)]
  dsimp only
  rw [if_pos hlt, UInt16.ofNat_toNat]

/-- The file name of the socket of a port. -/
def socketName (port : UInt16) : PathPart where
  bytes := utf8 ".s.PGSQL." ++ decimal port.toNat
  normal := by
    have hstarts : utf8 ".s.PGSQL." = [46, 115, 46, 80, 71, 83, 81, 76, 46] := by decide +kernel
    unfold componentOf
    rw [hstarts, if_neg (by simp), if_neg (by simp), if_neg (by simp)]
  no_slash := by
    have hstarts : 47 ∉ utf8 ".s.PGSQL." := by decide +kernel
    intro hmem
    rcases List.mem_append.mp hmem with hmem | hmem
    · exact hstarts hmem
    · exact not_mem_of_address (mem_decimal port.toNat) (by decide +kernel) hmem

lemma socketName_text (port : UInt16) : ∃ s, utf8 s = (socketName port).bytes :=
  ⟨_, utf8_append _ _⟩

lemma parseUnixSocketPort_socketName {path : Bytes} {port : UInt16}
    (h : pathFileName path = some (socketName port).bytes) :
    parseUnixSocketPort path = some port := by
  have htext : (socketName port).bytes
      = utf8 (".s.PGSQL." ++ String.ofList (Nat.toDigits 10 port.toNat)) := (utf8_append _ _).symm
  have hlist : (".s.PGSQL." ++ String.ofList (Nat.toDigits 10 port.toNat)).toList
      = socketPrefix ++ Nat.toDigits 10 port.toNat := by
    rw [String.toList_append]
    show socketPrefix ++ (String.ofList (Nat.toDigits 10 port.toNat)).toList = _
    rw [String.toList_ofList]
  unfold parseUnixSocketPort
  rw [h, htext]
  dsimp only [Option.bind_eq_bind, Option.bind_some]
  rw [fromUtf8_utf8, Option.bind_some, hlist, List.dropPrefix?_append_of_beq _ (beq_self_eq_true _),
    Option.bind_some]
  exact parseU16_toDigits port

/-- A socket where a client looks for it: an absolute path that is text, whose file name is the
one of a port. -/
def IsSocketPath (path : Bytes) : Prop :=
  path.head? = some 47 ∧ (∃ s, utf8 s = path) ∧
    ∃ port : UInt16, pathFileName path = some (socketName port).bytes

def ServerEndpoint.Findable : ServerEndpoint → Prop
  | .tcp _ => True
  | .unix path => IsSocketPath path

lemma socketHost_text (path : Bytes) : ∃ s, utf8 s = socketHost path := toStringLossy_text _

lemma isSocketPath_of_denotedBy {path : Bytes}
    (h : (ServerEndpoint.unix path).DenotedBy (socketHost path) (decimal (socketPort path).toNat)) :
    IsSocketPath path := by
  obtain ⟨hroot, hcomponents⟩ := h
  have hrest : ∃ rest, socketHost path = 47 :: rest := by
    rcases hhost : socketHost path with _ | ⟨b, rest⟩
    · rw [hhost] at hroot
      cases hroot
    · rw [hhost] at hroot
      exact ⟨rest, by rw [Option.some.inj hroot]⟩
  obtain ⟨rest, hhost⟩ := hrest
  rw [hhost] at hcomponents
  have hfile : pathFileName path = some (socketName (socketPort path)).bytes := by
    have hconcat := pathFileName_concat rest (socketName (socketPort path))
    unfold pathFileName at hconcat ⊢
    rw [← hcomponents]
    exact hconcat
  refine ⟨?_, ?_, socketPort path, hfile⟩
  · rw [← head_pathComponents, ← hcomponents, head_pathComponents]
    rfl
  · -- the names in the path are those of the directory and of the socket, which are texts
    apply text_of_names
    intro name hname
    obtain ⟨s, hs⟩ := socketHost_text path
    obtain ⟨t, ht⟩ := socketName_text (socketPort path)
    have htext : ∃ text, utf8 text = 47 :: rest ++ 47 :: (socketName (socketPort path)).bytes := by
      refine ⟨s ++ "/" ++ t, ?_⟩
      have hslash : utf8 "/" = [47] := by decide
      rw [utf8_append, utf8_append, hs, ht, hhost, hslash, List.append_assoc]
      rfl
    rw [← hcomponents] at hname
    exact text_of_name htext hname

lemma denotedBy_of_isSocketPath {path : Bytes} (h : IsSocketPath path) :
    (ServerEndpoint.unix path).DenotedBy (socketHost path) (decimal (socketPort path).toNat) := by
  obtain ⟨hroot, htext, port, hfile⟩ := h
  have hport : socketPort path = port := by
    unfold socketPort
    rw [parseUnixSocketPort_socketName hfile]
    rfl
  rcases path with _ | ⟨b, rest⟩
  · cases hroot
  · have hb : b = 47 := Option.some.inj hroot
    rw [hb] at hfile htext hport ⊢
    obtain ⟨directory, hparent, hcomponents⟩ := pathComponents_parent hfile
    have hdirectory : ∃ s, utf8 s = 47 :: directory := by
      apply text_of_names
      intro name hname
      apply text_of_name htext
      rw [← hcomponents, pathComponents_concat]
      exact List.mem_append_left _ hname
    have hhost : socketHost (47 :: rest) = 47 :: directory := by
      obtain ⟨s, hs⟩ := hdirectory
      unfold socketHost
      rw [hparent, Option.getD_some, ← hs, toStringLossy_utf8]
    rw [hhost, hport]
    exact ⟨rfl, hcomponents⟩

lemma denotedBy_addressOf (endpoint : ServerEndpoint) :
    endpoint.DenotedBy (addressOf endpoint).1 (addressOf endpoint).2 ↔ endpoint.Findable := by
  have hport : ∀ port : UInt16, (charsOf (decimal port.toNat)).bind parseU16 = some port := by
    intro port
    unfold decimal
    rw [charsOf_utf8, Option.bind_some, parseU16_toDigits]
  rcases endpoint with (⟨ip, port⟩ | ⟨ip, port⟩) | path
  · refine iff_of_true ⟨?_, hport port⟩ trivial
    show (charsOf (utf8 (String.ofList ip.text))).bind Ipv4Addr.parse = some ip
    rw [charsOf_utf8, Option.bind_some, Ipv4Addr.parse_text]
  · refine iff_of_true ⟨?_, hport port⟩ trivial
    show (charsOf (utf8 (String.ofList ip.text))).bind Ipv6Addr.parse = some ip
    rw [charsOf_utf8, Option.bind_some, Ipv6Addr.parse_text]
  · exact ⟨isSocketPath_of_denotedBy, denotedBy_of_isSocketPath⟩

/-! ## The round trip -/

lemma username_ne_nil {startup : StartupConfig} (h : startup.validate = .ok ()) :
    utf8 startup.username ≠ [] := by
  intro hnil
  have hempty : startup.username = "" := utf8_injective hnil
  unfold StartupConfig.validate validateStartupValue at h
  rw [hempty] at h
  cases h

/-- **The URI gives back the settings and the endpoint** exactly if the username and the database
have nothing in them that the server would have to encode, and the socket is one that a client
finds by its directory and port. -/
theorem roundTrips_iff {startup : StartupConfig} (h : startup.validate = .ok ())
    (endpoint : ServerEndpoint) :
    RoundTrips endpoint startup ↔
      PlainUser (utf8 startup.username) ∧ PlainDatabase (utf8 startup.database) ∧
        endpoint.Findable := by
  unfold RoundTrips
  rw [connectionUri_eq]
  constructor
  · intro hround
    obtain ⟨info, hinfo, huser, hdatabase, hdenoted⟩ := hround
    obtain ⟨hplain, hplainDatabase⟩ :=
      plain_of_readConnectionUri (username_ne_nil h) hinfo huser hdatabase
    rw [readConnectionUri_uriText endpoint hplain hplainDatabase] at hinfo
    rw [← Option.some.inj hinfo] at hdenoted
    exact ⟨hplain, hplainDatabase, (denotedBy_addressOf endpoint).mp hdenoted⟩
  · intro hplain
    exact ⟨_, readConnectionUri_uriText endpoint hplain.1 hplain.2.1, rfl, rfl,
      (denotedBy_addressOf endpoint).mpr hplain.2.2⟩

/-- Another user and another database. -/
def aliceConfig : StartupConfig :=
  { StartupConfig.default with username := "alice", database := "orders" }

/-- A socket of port 5433, and a loopback address. -/
theorem roundTrips_socket :
    aliceConfig.validate = .ok () ∧
      RoundTrips (.unix (utf8 "/run/pglite/.s.PGSQL.5433")) aliceConfig ∧
      RoundTrips (.tcp (.v4 ⟨127, 0, 0, 1⟩ 5432)) aliceConfig := by
  have huser : PlainUser (utf8 aliceConfig.username) := ⟨by decide +kernel, by decide +kernel⟩
  have hdatabase : PlainDatabase (utf8 aliceConfig.database) :=
    ⟨by decide +kernel, by decide +kernel⟩
  have hsocket : IsSocketPath (utf8 "/run/pglite/.s.PGSQL.5433") :=
    ⟨by decide +kernel, ⟨_, rfl⟩, 5433, by decide +kernel⟩
  exact ⟨rfl, (roundTrips_iff rfl _).mpr ⟨huser, hdatabase, hsocket⟩,
    (roundTrips_iff rfl _).mpr ⟨huser, hdatabase, trivial⟩⟩

/-- A client takes the username `a@b` for the user `a` on a host that starts with `b@`. -/
theorem username_cut :
    ({ StartupConfig.default with username := "a@b" } : StartupConfig).validate = .ok () ∧
      connectionUri (.tcp (.v4 ⟨127, 0, 0, 1⟩ 5432))
          { StartupConfig.default with username := "a@b" }
        = utf8 "postgresql://a@b@127.0.0.1:5432/template1?sslmode=disable" ∧
      readConnectionUri (utf8 "postgresql://a@b@127.0.0.1:5432/template1?sslmode=disable")
        = some ⟨utf8 "a", utf8 "template1", utf8 "b@127.0.0.1", utf8 "5432"⟩ ∧
      ¬ RoundTrips (.tcp (.v4 ⟨127, 0, 0, 1⟩ 5432))
          { StartupConfig.default with username := "a@b" } := by
  have huri : connectionUri (.tcp (.v4 ⟨127, 0, 0, 1⟩ 5432))
        { StartupConfig.default with username := "a@b" }
      = utf8 "postgresql://a@b@127.0.0.1:5432/template1?sslmode=disable" := by
    decide +kernel
  have hread : readConnectionUri (utf8 "postgresql://a@b@127.0.0.1:5432/template1?sslmode=disable")
      = some ⟨utf8 "a", utf8 "template1", utf8 "b@127.0.0.1", utf8 "5432"⟩ := by
    decide +kernel
  refine ⟨rfl, huri, hread, fun hround => ?_⟩
  obtain ⟨info, hinfo, huser, -⟩ := hround
  rw [huri, hread] at hinfo
  rw [← Option.some.inj hinfo] at huser
  exact absurd huser (by decide +kernel)

end PgliteOxide.Pglite
