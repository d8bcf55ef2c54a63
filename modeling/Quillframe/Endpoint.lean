import Mathlib.Data.List.MinMax
import Quillframe.Network

/-!
# Model endpoints

Which endpoints a model service may have, and the address that a client for one is pinned to.
-/
namespace Quillframe

inductive AuthStyle where
  | bearer | xApiKey | none
  deriving DecidableEq, Repr

inductive ProtocolFamily where
  | openaiChatCompletions | openaiResponses | anthropicMessages
  deriving DecidableEq, Repr

structure ServiceEndpoint where
  serviceId : String
  endpoint : String
  credentialRef : Option String
  authStyle : AuthStyle
  protocolFamily : ProtocolFamily
  allowLoopbackHttp : Bool
  deriving DecidableEq, Repr

/-- What is read of a parsed URL: `host` is `host_str()`, `port` is `port_or_known_default()`. -/
structure Url where
  scheme : String
  username : String
  password : Option String
  host : Option String
  port : Option ℕ
  query : Option String
  fragment : Option String
  deriving DecidableEq, Repr

/-- `left.eq_ignore_ascii_case(right)`. -/
def eqIgnoreAsciiCase (left right : String) : Bool :=
  left.toList.map Char.toLower = right.toList.map Char.toLower

def loopbackHost (host : String) : Bool :=
  eqIgnoreAsciiCase host "localhost" || (parseIpAddr host).any IpAddr.isLoopback

/-- The credential is there exactly when the authentication needs one. -/
def ServiceEndpoint.credentialFits (service : ServiceEndpoint) : Bool :=
  match service.authStyle with
  | .none => service.credentialRef = none
  | _ => service.credentialRef.any (· ≠ "")

/-- `validate_url`, where `parse` reads an absolute URL. -/
def ServiceEndpoint.validateUrl (parse : String → Option Url) (service : ServiceEndpoint) :
    CoreResult Url := do
  require (¬ blank service.serviceId) (.modelRuntime "service id is required")
  let url ← fetch (parse service.endpoint)
    (.modelRuntime "model endpoint is not a valid absolute URL")
  require (url.username = "" ∧ url.password = none ∧ url.query = none ∧ url.fragment = none)
    (.modelRuntime "model endpoint cannot contain credentials, query or fragment")
  let host ← fetch url.host (.modelRuntime "model endpoint requires a host")
  require (url.scheme = "https" ∨
      (url.scheme = "http" ∧ service.allowLoopbackHttp ∧ loopbackHost host))
    (.modelRuntime
      "model endpoint must use HTTPS; HTTP is limited to explicit loopback development")
  require service.credentialFits
    (.modelRuntime "credential reference does not match model authentication style")
  return url

/-! ## Pinning an address -/

/-- A resolved address with its port, and the flow and the scope of an IPv6 address. -/
structure SocketAddr where
  ip : IpAddr
  port : ℕ
  flowinfo : ℕ
  scopeId : ℕ
  deriving DecidableEq, Repr

/-- The order of socket addresses: IPv4 addresses first, then by address, port, flow and scope. -/
def SocketAddr.rank (address : SocketAddr) : ℕ ×ₗ ℕ ×ₗ ℕ ×ₗ ℕ ×ₗ ℕ :=
  let (family, bits) : ℕ × ℕ := match address.ip with
    | .v4 ip => (0, ip.bits.toNat)
    | .v6 ip => (1, ip.bits.toNat)
  toLex (family, toLex (bits, toLex (address.port, toLex (address.flowinfo, address.scopeId))))

def ipv6UniqueLocal (ip : Ipv6Addr) : Bool := ip.octet 0 / 2 = 0xfc / 2

def ipv6LinkLocal (ip : Ipv6Addr) : Bool := ip.octet 0 = 0xfe && ip.octet 1 / 64 = 0x80 / 64

def allowedAddress (ip : IpAddr) (allowLoopback : Bool) : Bool :=
  match ip with
  | .v4 ip => (allowLoopback && ip.isLoopback) ||
    !(ip.isPrivate || ip.isLoopback || ip.isLinkLocal || ip.isMulticast || ip.isUnspecified ||
      ip = Ipv4Addr.broadcast)
  | .v6 ip => (allowLoopback && ip.isLoopback) ||
    !(ip.isLoopback || ip.isUnspecified || ip.isMulticast || ipv6UniqueLocal ip ||
      ipv6LinkLocal ip)

/-- What the resolver answers and why the client cannot be built. -/
structure ClientBuilder where
  lookupHost : String → ℕ → Except String (List SocketAddr)
  build : String → SocketAddr → ℕ → Option String

/-- `pinned_client`, which returns the address that the client is pinned to. -/
def pinnedClient (builder : ClientBuilder) (endpoint : Url) (deadlineMs : ℕ) :
    CoreResult (SocketAddr × Url) := do
  let host ← fetch endpoint.host (.modelRuntime "model endpoint requires a host")
  let port ← fetch endpoint.port (.modelRuntime "model endpoint has no port")
  let addresses ← (builder.lookupHost host port).mapError fun error =>
    CoreError.modelRuntime ("model endpoint DNS failed: " ++ error)
  let pinned ← fetch (addresses.argmin SocketAddr.rank)
    (.modelRuntime "model endpoint DNS returned no addresses")
  require (∀ address ∈ addresses, allowedAddress address.ip (endpoint.scheme = "http"))
    (.modelRuntime "model endpoint DNS resolved to a forbidden network")
  match builder.build host pinned deadlineMs with
  | some error => .error (.modelRuntime ("model client build failed: " ++ error))
  | none => return (pinned, endpoint)

/-! ## The network policy -/

/-- Networks that no client may reach over HTTPS. -/
def Ipv4Addr.Forbidden (ip : Ipv4Addr) : Prop :=
  ip.isLoopback ∨ ip.isPrivate ∨ ip.isLinkLocal ∨ ip.isMulticast ∨ ip.isUnspecified ∨
    ip = Ipv4Addr.broadcast

def Ipv6Addr.Forbidden (ip : Ipv6Addr) : Prop :=
  ip.isLoopback ∨ ipv6UniqueLocal ip ∨ ipv6LinkLocal ip ∨ ip.isMulticast ∨ ip.isUnspecified

/-- An IPv6 address that stands for an IPv4 address. -/
def IpAddr.Embeds (ip : IpAddr) (inner : Ipv4Addr) : Prop :=
  ∃ outer, ip = .v6 outer ∧ (outer.mapped = some inner ∨ outer.compatible = some inner)

/-- The address is in a forbidden network, as it is written or as the address it stands for. -/
def IpAddr.Forbidden (ip : IpAddr) : Prop :=
  (match ip with
    | .v4 ip => ip.Forbidden
    | .v6 ip => ip.Forbidden) ∨ ∃ inner, ip.Embeds inner ∧ inner.Forbidden

/-- The address is loopback, as it is written or as the IPv4 address it is mapped from. -/
def IpAddr.OnMachine (ip : IpAddr) : Prop :=
  ip.isLoopback ∨ ∃ outer inner, ip = .v6 outer ∧ outer.mapped = some inner ∧ inner.isLoopback

/-- The policy of the scheme of an endpoint. -/
def NetworkPolicy (scheme : String) (ip : IpAddr) : Prop :=
  if scheme = "http" then ip.OnMachine else ¬ ip.Forbidden

/-- The policy holds of the address that a client is pinned to. -/
def PinsPolicy (builder : ClientBuilder) (url : Url) (deadlineMs : ℕ) : Prop :=
  ∀ pinned endpoint, pinnedClient builder url deadlineMs = .ok (pinned, endpoint) →
    NetworkPolicy url.scheme pinned.ip

theorem pinnedClient_eq_ok {builder : ClientBuilder} {url : Url} {deadlineMs : ℕ}
    {pinned : SocketAddr} {endpoint : Url} :
    pinnedClient builder url deadlineMs = .ok (pinned, endpoint) ↔ endpoint = url ∧
      ∃ host port addresses, url.host = some host ∧ url.port = some port ∧
        builder.lookupHost host port = .ok addresses ∧
        pinned ∈ addresses.argmin SocketAddr.rank ∧
        (∀ address ∈ addresses, allowedAddress address.ip (url.scheme = "http")) ∧
        builder.build host pinned deadlineMs = none := by
  simp only [pinnedClient, bind_eq_ok, fetch_eq_ok, require_eq_ok, exists_const]
  constructor
  · rintro ⟨host, hhost, port, hport, addresses, hlookup, least, hleast, hallowed, hbuild⟩
    cases hresult : builder.build host least deadlineMs with
    | some error => simp [hresult] at hbuild
    | none =>
      rw [hresult, pure_eq_ok, Prod.mk.injEq] at hbuild
      obtain ⟨rfl, rfl⟩ := hbuild
      refine ⟨rfl, host, port, addresses, hhost, hport, ?_, hleast, hallowed, hresult⟩
      cases hanswer : builder.lookupHost host port with
      | error error => simp [hanswer, Except.mapError] at hlookup
      | ok answers => simpa [hanswer, Except.mapError] using hlookup
  · rintro ⟨rfl, host, port, addresses, hhost, hport, hlookup, hleast, hallowed, hbuild⟩
    refine ⟨host, hhost, port, hport, addresses, by rw [hlookup]; rfl, pinned, hleast, hallowed, ?_⟩
    rw [hbuild]
    rfl

/-- Over HTTPS an address is allowed unless it is written as one of a forbidden network. -/
theorem allowedAddress_https (ip : IpAddr) : allowedAddress ip false ↔
    match ip with
    | .v4 ip => ¬ ip.Forbidden
    | .v6 ip => ¬ ip.Forbidden := by
  cases ip with
  | v4 ip => simp [allowedAddress, Ipv4Addr.Forbidden]; tauto
  | v6 ip => simp [allowedAddress, Ipv6Addr.Forbidden]; tauto

/-- A valid endpoint is pinned within the policy of its scheme exactly when the least of the
addresses it may be pinned to is on the machine, or stands for no forbidden address. -/
theorem pinned_within_policy {parse : String → Option Url} {service : ServiceEndpoint} {url : Url}
    (hvalid : service.validateUrl parse = .ok url) (builder : ClientBuilder) (deadlineMs : ℕ) :
    PinsPolicy builder url deadlineMs ↔
      ∀ host ∈ url.host, ∀ port ∈ url.port, ∀ addresses,
        builder.lookupHost host port = .ok addresses →
        (∀ address ∈ addresses, allowedAddress address.ip (url.scheme = "http")) →
        ∀ least ∈ addresses.argmin SocketAddr.rank,
          builder.build host least deadlineMs = none →
          (url.scheme = "http" → least.ip.OnMachine) ∧
          (url.scheme = "https" → ∀ inner, least.ip.Embeds inner → ¬ inner.Forbidden) := by
  have hscheme : url.scheme = "https" ∨ url.scheme = "http" := by
    simp only [ServiceEndpoint.validateUrl, bind_eq_ok, fetch_eq_ok, require_eq_ok,
      exists_const, pure_eq_ok] at hvalid
    obtain ⟨-, parsed, -, -, _, -, hscheme, -, rfl⟩ := hvalid
    exact hscheme.imp_right And.left
  constructor
  · intro hpolicy host hhost port hport addresses hlookup hallowed least hleast hbuild
    have hpinned := hpolicy least url (pinnedClient_eq_ok.mpr
      ⟨rfl, host, port, addresses, hhost, hport, hlookup, hleast, hallowed, hbuild⟩)
    refine ⟨fun hhttp => ?_, fun hhttps inner hembeds hforbidden => ?_⟩
    · simpa [NetworkPolicy, hhttp] using hpinned
    · rw [NetworkPolicy, if_neg (by simp [hhttps])] at hpinned
      exact hpinned (.inr ⟨inner, hembeds, hforbidden⟩)
  · intro hcondition pinned endpoint hpinned
    obtain ⟨-, host, port, addresses, hhost, hport, hlookup, hleast, hallowed, hbuild⟩ :=
      pinnedClient_eq_ok.mp hpinned
    obtain ⟨hhttp, hhttps⟩ :=
      hcondition host hhost port hport addresses hlookup hallowed pinned hleast hbuild
    rcases hscheme with hs | hs
    · rw [NetworkPolicy, if_neg (by simp [hs])]
      rintro (hwritten | ⟨inner, hembeds, hforbidden⟩)
      · have hown := hallowed pinned (List.argmin_mem hleast)
        rw [show decide (url.scheme = "http") = false by simp [hs], allowedAddress_https] at hown
        revert hwritten hown
        cases pinned.ip <;> exact fun hwritten hown => hown hwritten
      · exact hhttps hs inner hembeds hforbidden
    · rw [NetworkPolicy, if_pos hs]
      exact hhttp hs

namespace Sample

/-- A local model server and a hosted one. -/
def parseEndpoint : String → Option Url
  | "http://localhost:8080/v1" =>
    some ⟨"http", "", none, some "localhost", some 8080, none, none⟩
  | "https://api.example.com/v1" =>
    some ⟨"https", "", none, some "api.example.com", some 443, none, none⟩
  | _ => none

def localService : ServiceEndpoint where
  serviceId := "svc-local"
  endpoint := "http://localhost:8080/v1"
  credentialRef := some "keyring:qf:a1"
  authStyle := .bearer
  protocolFamily := .openaiChatCompletions
  allowLoopbackHttp := true

def hostedService : ServiceEndpoint :=
  { localService with serviceId := "svc-hosted", endpoint := "https://api.example.com/v1" }

def localUrl : Url := ⟨"http", "", none, some "localhost", some 8080, none, none⟩

def hostedUrl : Url := ⟨"https", "", none, some "api.example.com", some 443, none, none⟩

/-- A resolver with one answer for every name. -/
def answering (ip : IpAddr) : ClientBuilder where
  lookupHost _ port := .ok [⟨ip, port, 0, 0⟩]
  build _ _ _ := none

end Sample

/-- `localhost` may be pinned to a public address, and a hosted name to an address that stands for
a private one. -/
theorem pinned_outside_policy :
    Sample.localService.validateUrl Sample.parseEndpoint = .ok Sample.localUrl ∧
    ¬ PinsPolicy (Sample.answering (.v4 (Ipv4Addr.new 1 1 1 1))) Sample.localUrl 30000 ∧
    Sample.hostedService.validateUrl Sample.parseEndpoint = .ok Sample.hostedUrl ∧
    ¬ PinsPolicy (Sample.answering (.v6 ⟨0xffff0a000001⟩)) Sample.hostedUrl 30000 := by
  refine ⟨by decide +kernel, fun h => ?_, by decide +kernel, fun h => ?_⟩
  · have hpinned := h ⟨.v4 (Ipv4Addr.new 1 1 1 1), 8080, 0, 0⟩ Sample.localUrl (by decide +kernel)
    rw [NetworkPolicy, if_pos (by decide)] at hpinned
    rcases hpinned with hloop | ⟨outer, inner, he, -⟩
    · exact absurd hloop (by decide)
    · cases he
  · have hpinned := h ⟨.v6 ⟨0xffff0a000001⟩, 443, 0, 0⟩ Sample.hostedUrl (by decide +kernel)
    rw [NetworkPolicy, if_neg (by decide)] at hpinned
    refine hpinned (.inr ⟨Ipv4Addr.new 10 0 0 1, ⟨_, rfl, .inl ?_⟩, .inr (.inl ?_)⟩)
    · decide +kernel
    · decide +kernel

theorem pinned_within_policy_sample :
    PinsPolicy (Sample.answering (.v4 (Ipv4Addr.new 127 0 0 1))) Sample.localUrl 30000 := by
  refine (@pinned_within_policy Sample.parseEndpoint Sample.localService _ (by decide +kernel)
    _ _).mpr ?_
  rintro host - port hport addresses haddresses - least hleast -
  obtain rfl : 8080 = port := Option.some.inj hport
  obtain rfl : [⟨.v4 (Ipv4Addr.new 127 0 0 1), 8080, 0, 0⟩] = addresses :=
    Except.ok.inj haddresses
  obtain rfl := List.mem_singleton.mp (List.argmin_mem hleast)
  refine ⟨fun _ => .inl (by decide), fun hhttps => absurd hhttps (by decide)⟩

end Quillframe
