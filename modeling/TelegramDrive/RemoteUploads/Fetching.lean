import Mathlib.Data.List.Destutter
import TelegramDrive.Library.Machine
import TelegramDrive.Library.Results
import TelegramDrive.RemoteUploads.Addresses

namespace TelegramDrive
namespace RemoteUploads

/-!
# Fetching from a URL

At each hop the host is resolved, every address is checked, and the request is pinned to
what was checked.  So a chain of redirects stays where the check of addresses keeps it, and
it leaves the public addresses exactly where the check misses one that is contacted.
-/

/-- What of a parsed URL matters; the port is the known one of the scheme by default. -/
structure Url where
  scheme : String
  username : String
  password : Option String
  host : Option String
  port : Option UInt16
  rest : String
deriving DecidableEq

structure SocketAddr where
  ip : IpAddr
  port : UInt16
deriving DecidableEq

/-- By the order of these numbers addresses are sorted: the family, the address, the port. -/
def SocketAddr.rank (address : SocketAddr) : Nat :=
  match address.ip with
  | .v4 ip => ip.toNat * 2 ^ 16 + address.port.toNat
  | .v6 ip => (2 ^ 128 + ip.toNat) * 2 ^ 16 + address.port.toNat

structure Response where
  status : Nat
  location : Option String
deriving DecidableEq

structure NetworkConfig where
  isProxyActive : Bool
  effectiveProxyUrl : Option String

/-- The proxy that a client is built with. -/
def NetworkConfig.proxy (config : NetworkConfig) : Option String :=
  if config.isProxyActive then config.effectiveProxyUrl else none

def maxRemoteRedirects : Nat := 10

/-- A request that was sent: the answer of the resolver at its hop, and the addresses that
the client contacted for it. -/
structure Request where
  url : Url
  range : Option UInt64
  answer : List SocketAddr
  contacted : List SocketAddr

inductive Progress
  | resolving
  | sending (answer addresses : List SocketAddr)
  | ended (result : Except String (Url × Response))

structure State where
  redirectCount : Nat
  current : Url
  progress : Progress
  requests : List Request

def State.begin (url : Url) : State := ⟨0, url, .resolving, []⟩

inductive Event
  | resolve (lookup : Except String (List SocketAddr))
  | unbuilt (atProxy : Bool) (error : String)
  | send (contacted : List SocketAddr) (reply : Except String Response)

def Event.contacted : Event -> List SocketAddr
  | .send contacted _ => contacted
  | _ => []

section Fetch

/- The parsers of addresses and URLs, and the text of an error status. -/
variable (parse : String -> Option IpAddr) (join : Url -> String -> Except String Url)
  (statusError : Response -> String) (config : NetworkConfig) (rangeStart : Option UInt64)

def endsWith (text ending : String) : Bool := ending.toList.isSuffixOf text.toList

def normalizedHost (host : String) : String :=
  String.ofList ((host.toList.reverse.dropWhile (· = '.')).reverse.map Char.toLower)

def isLocalName (name : String) : Bool :=
  decide (name = "localhost") || endsWith name ".localhost" || endsWith name ".local" ||
    endsWith name ".internal" || endsWith name ".lan" || endsWith name ".home"

def validateRemoteUrlSyntax (url : Url) : Except String Unit :=
  if url.scheme ≠ "http" ∧ url.scheme ≠ "https" then .error "Only HTTP and HTTPS URLs can be uploaded"
  else if url.username ≠ "" ∨ url.password.isSome then
    .error "Credentials embedded in upload URLs are not allowed"
  else
    match url.host with
    | none => .error "The upload URL has no hostname"
    | some host =>
      if isLocalName (normalizedHost host) then .error "Upload URLs cannot target local or private hosts"
      else if (parse (normalizedHost host)).any fun address => !isPublicRemoteIp address then
        .error "Upload URLs cannot target private or reserved IP addresses"
      else .ok ()

/-- Sorted, and each address once. -/
def distinctAddresses (answer : List SocketAddr) : List SocketAddr :=
  (answer.mergeSort fun one other => decide (one.rank ≤ other.rank)).destutter (· ≠ ·)

def resolvePublicRemoteAddrs (url : Url) (lookup : Except String (List SocketAddr)) :
    Except String (List SocketAddr) :=
  (validateRemoteUrlSyntax parse url).bind fun _ =>
    if url.host = none then .error "The upload URL has no hostname"
    else if url.port = none then .error "The upload URL has no usable port"
    else
      match lookup with
      | .error error => .error ("Unable to resolve the upload URL hostname: " ++ error)
      | .ok answer =>
        if distinctAddresses answer = [] then .error "The upload URL hostname did not resolve"
        else if (distinctAddresses answer).any fun address => !isPublicRemoteIp address.ip then
          .error "The upload URL resolved to a private or reserved network address"
        else .ok (distinctAddresses answer)

def redirectTarget (current : Url) (location : String) : Except String Url :=
  match join current location with
  | .error error => .error ("The upload server returned an invalid redirect: " ++ error)
  | .ok target => (validateRemoteUrlSyntax parse target).map fun _ => target

namespace State

variable (state : State)

def finish (result : Except String (Url × Response)) : State := { state with progress := .ended result }

/-- What follows from a response: the next hop, or the end. -/
def respond (response : Response) : State :=
  if 300 ≤ response.status ∧ response.status ≤ 399 then
    if state.redirectCount = maxRemoteRedirects then
      state.finish (.error "The upload URL exceeded the redirect limit")
    else
      match response.location with
      | none => state.finish (.error "The upload server returned a redirect without a valid location")
      | some location =>
        match redirectTarget parse join state.current location with
        | .error error => state.finish (.error error)
        | .ok target =>
          { state with
            redirectCount := state.redirectCount + 1
            current := target
            progress := .resolving }
  else if 400 ≤ response.status ∧ response.status ≤ 599 then
    state.finish (.error ("The upload server returned an error: " ++ statusError response))
  else state.finish (.ok (state.current, response))

/-- One hop of `validated_remote_get` resolves, builds a client and sends. -/
def step : Event -> Option State
  | .resolve lookup =>
    match state.progress with
    | .resolving => some (match resolvePublicRemoteAddrs parse state.current lookup with
        | .error error => state.finish (.error error)
        | .ok addresses => { state with progress := .sending (lookup.toOption.getD []) addresses })
    | _ => none
  | .unbuilt atProxy error =>
    match state.progress with
    | .sending _ _ => some (state.finish (.error
        (if atProxy && config.proxy.isSome then "The configured proxy is invalid: " ++ error else error)))
    | _ => none
  | .send contacted reply =>
    match state.progress with
    | .sending answer _ =>
      let sent := { state with requests := ⟨state.current, rangeStart, answer, contacted⟩ :: state.requests }
      some (match reply with
        | .error error => sent.finish (.error error)
        | .ok response => sent.respond parse join statusError response)
    | _ => none

end State

def fetchMachine : Machine State Event where
  step := State.step parse join statusError config rangeStart

/-- Without a proxy a client contacts only the addresses it is pinned to. -/
def pinned (state : State) (event : Event) : Bool :=
  match state.progress with
  | .sending _ addresses => config.proxy.isSome || decide (event.contacted ⊆ addresses)
  | _ => true

/-! ## What holds in a run -/

/-- A URL without credentials that is http or https. -/
def Url.Plain (url : Url) : Prop :=
  (url.scheme = "http" ∨ url.scheme = "https") ∧ url.username = "" ∧ url.password = none

/-- The addresses are from the answer, and they were accepted. -/
def Checked (answer addresses : List SocketAddr) : Prop :=
  forall address, address ∈ addresses -> address ∈ answer ∧ isPublicRemoteIp address.ip = true

structure Request.Checked (request : Request) : Prop where
  plain : request.url.Plain
  contacted : RemoteUploads.Checked request.answer request.contacted

/-- The property: few requests, each to a plain URL, and only to public addresses that
were checked at its hop. -/
structure Confined (state : State) : Prop where
  few : state.requests.length ≤ maxRemoteRedirects + 1
  requests : forall request, request ∈ state.requests -> request.Checked
  «public» : forall request, request ∈ state.requests -> forall address, address ∈ request.contacted ->
    address.ip.Public

def Progress.hop : Progress -> Nat
  | .ended _ => 1
  | _ => 0

/-- The invariant. -/
structure State.Sound (state : State) : Prop where
  hops : state.redirectCount ≤ maxRemoteRedirects
  few : state.requests.length ≤ state.redirectCount + state.progress.hop
  requests : forall request, request ∈ state.requests -> request.Checked
  sending : forall answer addresses, state.progress = .sending answer addresses ->
    state.current.Plain ∧ Checked answer addresses

variable {parse join statusError config rangeStart}

theorem validateRemoteUrlSyntax_ok {url : Url} (valid : validateRemoteUrlSyntax parse url = .ok ()) :
    url.Plain := by
  unfold validateRemoteUrlSyntax at valid
  split at valid
  · cases valid
  next scheme =>
    split at valid
    · cases valid
    next credentials =>
      rw [not_or, not_not, Option.not_isSome_iff_eq_none] at credentials
      exact ⟨by tauto, credentials⟩

theorem mem_distinctAddresses {address : SocketAddr} {answer : List SocketAddr}
    (member : address ∈ distinctAddresses answer) : address ∈ answer :=
  List.mem_mergeSort.mp ((List.destutter_sublist _ _).subset member)

theorem resolvePublicRemoteAddrs_ok {url : Url} {lookup : Except String (List SocketAddr)}
    {addresses : List SocketAddr} (resolved : resolvePublicRemoteAddrs parse url lookup = .ok addresses) :
    url.Plain ∧ Checked (lookup.toOption.getD []) addresses := by
  rcases Results.bind_ok resolved with ⟨_, valid, rest⟩
  refine ⟨validateRemoteUrlSyntax_ok valid, ?_⟩
  split at rest
  · cases rest
  split at rest
  · cases rest
  split at rest
  · cases rest
  next answer =>
    split at rest
    · cases rest
    split at rest
    · cases rest
    next accepted =>
      cases rest
      intro address member
      rw [Bool.not_eq_true, List.any_eq_false] at accepted
      exact ⟨mem_distinctAddresses member, by simpa using accepted address member⟩

theorem respond_sound {state : State} {answer addresses : List SocketAddr} {request : Request} (sound : state.Sound)
    (sending : state.progress = .sending answer addresses) (checked : request.Checked) (response : Response) :
    (State.respond parse join statusError { state with requests := request :: state.requests } response).Sound := by
  have few := sound.few
  rw [sending] at few
  have requests := List.forall_mem_cons.mpr ⟨checked, sound.requests⟩
  have finished (result : Except String (Url × Response)) :
      (State.finish { state with requests := request :: state.requests } result).Sound :=
    ⟨sound.hops, Nat.succ_le_succ few, requests, nofun⟩
  unfold State.respond
  split
  · split
    · exact finished _
    next more =>
      split
      · exact finished _
      · split
        · exact finished _
        · exact ⟨Nat.lt_of_le_of_ne sound.hops more, Nat.succ_le_succ few, requests, nofun⟩
  · split
    · exact finished _
    · exact finished _

theorem sound_step {state next : State} {event : Event} (direct : config.proxy = none)
    (allowed : pinned config state event = true) (sound : state.Sound)
    (moved : (fetchMachine parse join statusError config rangeStart).step state event = some next) : next.Sound := by
  have early (going : state.progress.hop = 0) : state.requests.length ≤ state.redirectCount :=
    Nat.le_trans sound.few (Nat.le_of_eq (by rw [going]; rfl))
  have finished (result : Except String (Url × Response)) (going : state.progress.hop = 0) :
      (state.finish result).Sound :=
    ⟨sound.hops, Nat.le_succ_of_le (early going), sound.requests, nofun⟩
  cases event with
  | resolve lookup =>
    change (match state.progress with | .resolving => _ | _ => none) = _ at moved
    split at moved
    next resolving =>
      cases moved
      split
      · exact finished _ (by rw [resolving]; rfl)
      next addresses resolved =>
        refine ⟨sound.hops, early (by rw [resolving]; rfl), sound.requests, ?_⟩
        intro answer others same
        cases same
        exact resolvePublicRemoteAddrs_ok resolved
    · cases moved
  | unbuilt atProxy error =>
    change (match state.progress with | .sending _ _ => _ | _ => none) = _ at moved
    split at moved
    next sending =>
      cases moved
      exact finished _ (by rw [sending]; rfl)
    · cases moved
  | send contacted reply =>
    change (match state.progress with | .sending answer _ => _ | _ => none) = _ at moved
    split at moved
    next answer addresses sending =>
      rcases sound.sending answer addresses sending with ⟨plain, checked⟩
      unfold pinned at allowed
      rw [sending, direct] at allowed
      have within := of_decide_eq_true allowed
      have request : Request.Checked ⟨state.current, rangeStart, answer, contacted⟩ :=
        ⟨plain, fun address member => checked address (within member)⟩
      cases moved
      split
      · exact ⟨sound.hops, Nat.succ_le_succ (early (by rw [sending]; rfl)),
          List.forall_mem_cons.mpr ⟨request, sound.requests⟩, nofun⟩
      · exact respond_sound sound sending request _
    · cases moved

/-- The addresses that were contacted. -/
def State.contacts (state : State) : List SocketAddr := state.requests.flatMap Request.contacted

theorem respond_requests (state : State) (response : Response) :
    (state.respond parse join statusError response).requests = state.requests := by
  unfold State.respond
  split
  · split
    · rfl
    split
    · rfl
    split
    · rfl
    · rfl
  · split
    · rfl
    · rfl

theorem contacts_step {state next : State} {event : Event}
    (moved : (fetchMachine parse join statusError config rangeStart).step state event = some next) :
    next.contacts = event.contacted ++ state.contacts := by
  cases event with
  | resolve lookup =>
    change (match state.progress with | .resolving => _ | _ => none) = _ at moved
    split at moved
    · cases moved
      split
      · rfl
      · rfl
    · cases moved
  | unbuilt atProxy error =>
    change (match state.progress with | .sending _ _ => _ | _ => none) = _ at moved
    split at moved
    · cases moved
      rfl
    · cases moved
  | send contacted reply =>
    change (match state.progress with | .sending answer _ => _ | _ => none) = _ at moved
    split at moved
    · cases moved
      split
      · rfl
      · unfold State.contacts
        rw [respond_requests]
        rfl
    · cases moved

theorem contacts_run {permitted : State -> Event -> Prop} {state final : State} {events : List Event}
    (run : (fetchMachine parse join statusError config rangeStart).Run permitted state events final)
    (address : SocketAddr) : address ∈ final.contacts ↔
      (Exists fun event => event ∈ events ∧ address ∈ event.contacted) ∨ address ∈ state.contacts := by
  induction run with
  | stop state => simp
  | take allowed moved later ih =>
    rw [ih, contacts_step moved, List.mem_append, List.exists_mem_cons_iff]
    exact or_left_comm.trans or_assoc.symm

end Fetch

variable {parse : String -> Option IpAddr} {join : Url -> String -> Except String Url}
  {statusError : Response -> String} {config : NetworkConfig} {rangeStart : Option UInt64}

theorem remote_gets_stay_public (direct : config.proxy = none) {initial : Url} {events : List Event} {final : State}
    (run : (fetchMachine parse join statusError config rangeStart).Run
      (fun state event => pinned config state event = true) (.begin initial) events final) :
    Confined final ↔ forall event, event ∈ events -> forall address, address ∈ event.contacted ->
      address.ip.overlooked = false := by
  have sound : final.Sound := run.invariant State.Sound
    (fun state event next allowed sound moved => sound_step direct allowed sound moved)
    ⟨Nat.zero_le _, Nat.le_refl _, nofun, nofun⟩
  have contacted (address : SocketAddr) : address ∈ final.contacts ↔
      Exists fun event => event ∈ events ∧ address ∈ event.contacted := by
    rw [contacts_run run address]
    simp [State.contacts, State.begin]
  constructor
  · intro confined event member address inside
    rcases List.mem_flatMap.mp ((contacted address).mpr ⟨event, member, inside⟩) with ⟨request, listed, among⟩
    exact ((public_iff address.ip).mp (confined.public request listed address among)).2
  · intro clear
    refine ⟨?_, sound.requests, ?_⟩
    · have few := sound.few
      have hops := sound.hops
      have last : final.progress.hop ≤ 1 := by cases final.progress <;> simp [Progress.hop]
      omega
    · intro request listed address among
      rcases (contacted address).mp (List.mem_flatMap.mpr ⟨request, listed, among⟩) with ⟨event, member, inside⟩
      exact (public_iff address.ip).mpr
        ⟨((sound.requests request listed).contacted address among).2, clear event member address inside⟩

/-- A plain URL of a host. -/
def siteUrl (host : String) : Url := ⟨"https", "", none, some host, some 443, "/file"⟩

/-- A redirect between two hosts, each of which has one address. -/
def redirectedFetch (first second : IpAddr) : List Event :=
  [.resolve (.ok [⟨first, 443⟩]), .send [⟨first, 443⟩] (.ok ⟨302, some "files.example"⟩),
    .resolve (.ok [⟨second, 443⟩]), .send [⟨second, 443⟩] (.ok ⟨200, none⟩)]

def siteMachine : Machine State Event :=
  fetchMachine (fun _ => none) (fun _ location => .ok (siteUrl location)) (fun _ => "") ⟨false, none⟩ none

theorem redirected_fetch_stays_public : Exists fun final => Confined final ∧ final.requests.length = 2 := by
  have replayed : ((siteMachine.guarded (pinned ⟨false, none⟩)).replay (.begin (siteUrl "site.example"))
      (redirectedFetch (.v4 ⟨93, 184, 216, 34⟩) (.v6 ⟨0x2606, 0x4700, 0, 0, 0, 0, 0, 1⟩))).any
      (fun final => decide (final.requests.length = 2)) = true := by decide +kernel
  exact (Machine.exists_guarded_run replayed).imp fun final ⟨run, two⟩ =>
    ⟨(remote_gets_stay_public rfl run).mpr (by decide +kernel), two⟩

/-- A redirect to the NAT64 form of a link-local address is followed. -/
theorem carried_address_is_contacted : Exists fun final =>
    siteMachine.Run (fun state event => pinned ⟨false, none⟩ state event = true) (.begin (siteUrl "site.example"))
      (redirectedFetch (.v4 ⟨93, 184, 216, 34⟩) (.v6 ⟨0x64, 0xff9b, 0, 0, 0, 0, 0xa9fe, 0xa9fe⟩)) final ∧
    ¬ Confined final := by
  have replayed : ((siteMachine.guarded (pinned ⟨false, none⟩)).replay (.begin (siteUrl "site.example"))
      (redirectedFetch (.v4 ⟨93, 184, 216, 34⟩) (.v6 ⟨0x64, 0xff9b, 0, 0, 0, 0, 0xa9fe, 0xa9fe⟩))).any (fun final =>
        decide (Exists fun address => address ∈ final.contacts ∧ address.ip.overlooked = true)) = true := by
    decide +kernel
  refine (Machine.exists_guarded_run replayed).imp fun final ⟨run, address, member, carried⟩ => ⟨run, fun confined => ?_⟩
  rcases List.mem_flatMap.mp member with ⟨request, listed, among⟩
  have clear := ((public_iff address.ip).mp (confined.public request listed address among)).2
  exact Bool.false_ne_true (clear.symm.trans carried)

end RemoteUploads
end TelegramDrive
