/-
# Safe fetches

Every request of a fetch goes to the address that its client is bound to, so the
connections of a fetch are determined by the URLs that it reaches through redirects and by
the addresses that their hosts resolve to. A fetch is safe exactly when it comes to no
address that the filter misses.
-/

import Mathlib.Order.Basic
import Rintawa.WasmRuntime.HttpDestinations

namespace Rintawa.WasmRuntime

open Rintawa.Lib Rintawa.Sdk

/-! ## Connections -/

/-- A name that resolves into the range for benchmarks, to which the route starts there. -/
structure BenchmarkingTunnel (world : HttpWorld) (connection : HttpConnection) : Prop where
  domain : ∃ domain, connection.url.host = some (.domain domain)
  routed : ∃ destination source, connection.destination = .v4 destination ∧
    (world.round connection.round).routedSourceIp connection.destination = some (.v4 source) ∧
    isBenchmarkingIpv4 destination = true ∧ isBenchmarkingIpv4 source = true

/-- A connection for an HTTPS URL without credentials, to a publicly routable address or
through a tunnel. -/
structure SafeConnection (world : HttpWorld) (connection : HttpConnection) : Prop where
  https : connection.url.scheme = "https"
  username : connection.url.username = ""
  password : connection.url.password = none
  destination : connection.destination.PubliclyRoutable ∨ BenchmarkingTunnel world connection

/-- A fetch with safe connections, not more of them than redirects and one, and a body
within its limit. -/
structure SafeFetch (host : HttpFetchHost) (world : HttpWorld) (maxBytes : Nat)
    (outcome : FetchOutcome) : Prop where
  connections : ∀ connection ∈ outcome.1, SafeConnection world connection
  requests : outcome.1.length ≤ host.maxHttpRedirects + 1
  body : ∀ response, outcome.2 = .ok response →
    response.body.length ≤ host.responseLimit maxBytes

variable {round : HttpRound} {world : HttpWorld} {current : Url}

variable {destination : IpAddr}

/-- Names are only bound to addresses that the filter accepts, or to a tunnel. -/
theorem isAllowedDomainDestination_iff :
    isAllowedDomainDestination round destination = true ↔
      isAllowedPublicIp destination = true ∨ ∃ address source, destination = .v4 address ∧
        round.routedSourceIp destination = some (.v4 source) ∧
        isBenchmarkingIpv4 address = true ∧ isBenchmarkingIpv4 source = true := by
  unfold isAllowedDomainDestination isAllowedDomainDestinationWithSource
  rw [Bool.or_eq_true]
  refine or_congr_right ?_
  cases destination with
  | v6 address => exact iff_of_false Bool.false_ne_true fun ⟨_, _, h, _⟩ => by cases h
  | v4 address =>
      dsimp only
      cases hbenchmarking : isBenchmarkingIpv4 address with
      | false =>
          refine iff_of_false Bool.false_ne_true fun ⟨other, _, hsame, _, hother, _⟩ => ?_
          cases hsame
          rw [hbenchmarking] at hother
          cases hother
      | true =>
          cases hsource : round.routedSourceIp (.v4 address) with
          | none => exact iff_of_false Bool.false_ne_true fun ⟨_, _, _, h, _⟩ => by cases h
          | some source =>
              cases source with
              | v6 source =>
                  exact iff_of_false Bool.false_ne_true fun ⟨_, _, _, h, _⟩ => by cases h
              | v4 source =>
                  rw [if_pos rfl]
                  dsimp only
                  rw [hbenchmarking, Bool.true_and]
                  constructor
                  · exact fun h => ⟨address, source, rfl, rfl, hbenchmarking, h⟩
                  · rintro ⟨_, _, _, hsame, -, h⟩
                    cases hsame
                    exact h

/-- What a client is bound to. -/
theorem boundDestination_ok {port : Nat} {host : UrlHost}
    (h : boundDestination round port host = .ok destination) :
    isAllowedPublicIp destination = true ∨
      (∃ domain, host = .domain domain) ∧ isAllowedDomainDestination round destination = true := by
  cases host with
  | domain domain =>
      simp only [boundDestination] at h
      split at h
      · cases h
      · split at h
        · cases h
        · next allowed hfound =>
            cases h
            exact .inr ⟨⟨domain, rfl⟩, List.find?_some hfound⟩
  | ipv4 address =>
      simp only [boundDestination] at h
      split at h
      · next hallowed =>
          cases h
          exact .inl hallowed
      · cases h
  | ipv6 address =>
      simp only [boundDestination] at h
      split at h
      · next hallowed =>
          cases h
          exact .inl hallowed
      · cases h

/-- A client is built for HTTPS URLs without credentials, and is bound to the address of
their host. -/
theorem buildBoundedHttpsClient_ok {url : Url}
    (h : buildBoundedHttpsClient round url = .ok destination) :
    url.scheme = "https" ∧ url.username = "" ∧ url.password = none ∧
      ∃ host port, url.host = some host ∧ boundDestination round port host = .ok destination := by
  unfold buildBoundedHttpsClient at h
  split at h
  · cases h
  · next hplain =>
      simp only [not_or, ne_eq, not_not, Bool.not_eq_true, Option.isSome_eq_false_iff,
        Option.isNone_iff_eq_none] at hplain
      obtain ⟨hscheme, husername, hpassword⟩ := hplain
      refine ⟨hscheme, husername, hpassword, ?_⟩
      split at h
      · cases h
      · cases h
      · next host port hhost hport =>
          split at h
          · cases h
          · next bound hbound =>
              split at h <;> cases h
              exact ⟨host, port, hhost, hbound⟩

/-- A connection of a bound client is safe unless the filter missed its destination. -/
theorem safeConnection_iff {connection : HttpConnection}
    (hbound : buildBoundedHttpsClient (world.round connection.round) connection.url =
      .ok connection.destination) :
    SafeConnection world connection ↔ ¬ MissedByFilter connection.destination := by
  obtain ⟨hscheme, husername, hpassword, host, port, hhost, hdestination⟩ :=
    buildBoundedHttpsClient_ok hbound
  have htunnel : BenchmarkingTunnel world connection →
      ¬ MissedByFilter connection.destination := by
    rintro ⟨-, address, -, hv4, -⟩
    rw [hv4]
    exact not_false
  have haccepted : isAllowedPublicIp connection.destination = true ∨
      BenchmarkingTunnel world connection := by
    rcases boundDestination_ok hdestination with hallowed | ⟨⟨domain, rfl⟩, hname⟩
    · exact .inl hallowed
    · rcases isAllowedDomainDestination_iff.mp hname with hallowed | hrouted
      · exact .inl hallowed
      · exact .inr ⟨⟨domain, hhost⟩, hrouted⟩
  constructor
  · rintro ⟨-, -, -, hpublic | hrouted⟩
    · rcases haccepted with hallowed | hrouted
      · exact (publiclyRoutable_iff hallowed).mp hpublic
      · exact htunnel hrouted
    · exact htunnel hrouted
  · intro hmissed
    refine ⟨hscheme, husername, hpassword, ?_⟩
    exact haccepted.imp_left fun hallowed => (publiclyRoutable_iff hallowed).mpr hmissed

/-! ## Fetches -/

/-- A document that is returned has a body within the limit. -/
theorem completeResponse_ok {limit : Nat} {response : HttpResponse} {document : WitHttpResponse}
    (h : completeResponse world limit current response = .ok document) :
    document.body.length ≤ limit := by
  unfold completeResponse at h
  split at h
  · cases h
  · split at h
    · cases h
    · split at h
      · cases h
      · next hwithin =>
          cases h
          exact Nat.le_of_not_lt hwithin

/-- A URL that is reached in a round: the one of the first round, or one that a followed
redirect leads to. -/
inductive Reaches (world : HttpWorld) : Nat → Url → Nat → Url → Prop
  | here {round : Nat} {current : Url} : Reaches world round current round current
  | redirect {round later : Nat} {current next url : Url} {destination : IpAddr}
      {response : HttpResponse}
      (bound : buildBoundedHttpsClient (world.round round) current = .ok destination)
      (answered : (world.round round).send current destination = .ok response)
      (followed : isFollowedRedirect response.status = true)
      (target : redirectTarget world current response = .ok next)
      (rest : Reaches world (round + 1) next later url) :
      Reaches world round current later url

/-- Later rounds are reached through redirects. -/
theorem Reaches.le {round later : Nat} {url : Url} (h : Reaches world round current later url) :
    round ≤ later := by
  induction h with
  | here => exact le_rfl
  | redirect _ _ _ _ _ ih => exact (Nat.le_succ _).trans ih

/-- The ways in which one round of a fetch ends: without a client, with its last request,
or with a redirect that is followed. -/
theorem fetchFrom_cases (world : HttpWorld) (limit redirects round : Nat) (current : Url) :
    (∃ error, buildBoundedHttpsClient (world.round round) current = .error error ∧
      fetchFrom world limit redirects round current = ([], .error error)) ∨
    ∃ destination, buildBoundedHttpsClient (world.round round) current = .ok destination ∧
      ((∃ result, fetchFrom world limit redirects round current =
          ([⟨round, current, destination⟩], result) ∧
          (∀ document, result = .ok document → document.body.length ≤ limit) ∧
          ∀ response next, (world.round round).send current destination = .ok response →
            isFollowedRedirect response.status = true →
            redirectTarget world current response = .ok next → redirects = 0) ∨
        ∃ response next left, (world.round round).send current destination = .ok response ∧
          isFollowedRedirect response.status = true ∧
          redirectTarget world current response = .ok next ∧ redirects = left + 1 ∧
          fetchFrom world limit redirects round current =
            (⟨round, current, destination⟩ :: (fetchFrom world limit left (round + 1) next).1,
              (fetchFrom world limit left (round + 1) next).2)) := by
  cases hbound : buildBoundedHttpsClient (world.round round) current with
  | error error =>
      refine .inl ⟨error, rfl, ?_⟩
      unfold fetchFrom
      rw [hbound]
  | ok destination =>
      refine .inr ⟨destination, rfl, ?_⟩
      cases hsend : (world.round round).send current destination with
      | error error =>
          refine .inl ⟨.error (mapHttpRequestError error), ?_, (fun _ h => by cases h),
            fun _ _ h => by cases h⟩
          unfold fetchFrom
          rw [hbound]
          dsimp only
          rw [hsend]
      | ok response =>
          cases hfollowed : isFollowedRedirect response.status with
          | false =>
              refine .inl ⟨completeResponse world limit current response, ?_,
                (fun _ h => completeResponse_ok h), ?_⟩
              · unfold fetchFrom
                rw [hbound]
                dsimp only
                rw [hsend]
                simp only [hfollowed, Bool.false_eq_true, if_false]
              · intro _ _ hsame hother
                cases hsame
                rw [hfollowed] at hother
                cases hother
          | true =>
              cases redirects with
              | zero =>
                  refine .inl ⟨.error .tooManyRedirects, ?_, (fun _ h => by cases h),
                    fun _ _ _ _ _ => rfl⟩
                  unfold fetchFrom
                  rw [hbound]
                  dsimp only
                  rw [hsend]
                  simp only [hfollowed, if_true]
              | succ left =>
                  cases htarget : redirectTarget world current response with
                  | error error =>
                      refine .inl ⟨.error error, ?_, (fun _ h => by cases h), ?_⟩
                      · conv_lhs => unfold fetchFrom
                        rw [hbound]
                        dsimp only
                        rw [hsend]
                        simp only [hfollowed, if_true, htarget]
                      · intro _ _ hsame _ hother
                        cases hsame
                        rw [htarget] at hother
                        cases hother
                  | ok next =>
                      refine .inr ⟨response, next, left, rfl, hfollowed, htarget, rfl, ?_⟩
                      conv_lhs => unfold fetchFrom
                      rw [hbound]
                      dsimp only
                      rw [hsend]
                      simp only [hfollowed, if_true, htarget]

/-- The connections of a fetch are those of the clients for the URLs that are reached within the
redirects that are left. The last request is redirected only while redirects are left. -/
theorem mem_fetchFrom_iff {limit redirects round : Nat} {connection : HttpConnection} :
    connection ∈ (fetchFrom world limit redirects round current).1 ↔
      connection.round ≤ round + redirects ∧
      Reaches world round current connection.round connection.url ∧
      buildBoundedHttpsClient (world.round connection.round) connection.url =
        .ok connection.destination := by
  obtain ⟨made, url, destination⟩ := connection
  induction redirects using Nat.strong_induction_on generalizing round current with
  | _ redirects ih =>
      rcases fetchFrom_cases world limit redirects round current with
        ⟨error, hbound, heq⟩ | ⟨first, hbound, ⟨result, heq, -, hlast⟩ |
          ⟨response, next, left, hsend, hfollowed, htarget, rfl, heq⟩⟩
      · rw [heq]
        refine iff_of_false List.not_mem_nil ?_
        rintro ⟨-, hreaches, hclient⟩
        cases hreaches with
        | here =>
            rw [hbound] at hclient
            cases hclient
        | redirect bound =>
            rw [hbound] at bound
            cases bound
      · rw [heq, List.mem_singleton]
        constructor
        · intro hsame
          cases hsame
          exact ⟨Nat.le_add_right _ _, .here, hbound⟩
        · rintro ⟨hle, hreaches, hclient⟩
          cases hreaches with
          | here =>
              rw [hbound] at hclient
              cases hclient
              rfl
          | redirect bound answered followed target rest =>
              rw [hbound] at bound
              cases bound
              have hnone := hlast _ _ answered followed target
              have hlater := rest.le
              omega
      · rw [heq, List.mem_cons, ih left (Nat.lt_succ_self left)]
        constructor
        · rintro (hsame | ⟨hle, hreaches, hclient⟩)
          · cases hsame
            exact ⟨Nat.le_add_right _ _, .here, hbound⟩
          · refine ⟨hle.trans (by omega), ?_, hclient⟩
            exact .redirect hbound hsend hfollowed htarget hreaches
        · rintro ⟨hle, hreaches, hclient⟩
          cases hreaches with
          | here =>
              rw [hbound] at hclient
              cases hclient
              exact .inl rfl
          | redirect bound answered followed target rest =>
              rw [hbound] at bound
              cases bound
              rw [hsend] at answered
              cases answered
              rw [htarget] at target
              cases target
              exact .inr ⟨hle.trans (by omega), rest, hclient⟩

/-- Each redirect costs one of those that are left, and a document keeps to the limit. -/
theorem fetchFrom_bounded (world : HttpWorld) (limit redirects round : Nat) (current : Url) :
    (fetchFrom world limit redirects round current).1.length ≤ redirects + 1 ∧
      ∀ document, (fetchFrom world limit redirects round current).2 = .ok document →
        document.body.length ≤ limit := by
  induction redirects using Nat.strong_induction_on generalizing round current with
  | _ redirects ih =>
      rcases fetchFrom_cases world limit redirects round current with
        ⟨error, -, heq⟩ | ⟨first, -, ⟨result, heq, hbody, -⟩ |
          ⟨response, next, left, -, -, -, rfl, heq⟩⟩
      · rw [heq]
        exact ⟨Nat.zero_le _, fun _ h => by cases h⟩
      · rw [heq]
        exact ⟨Nat.succ_le_succ (Nat.zero_le _), hbody⟩
      · obtain ⟨hlength, hbody⟩ := ih left (Nat.lt_succ_self left) (round + 1) next
        rw [heq]
        exact ⟨Nat.succ_le_succ hlength, hbody⟩

/-- What a fetch does once the caller is admitted and the URL is parsed. -/
theorem get_eq_fetchFrom {host : HttpFetchHost} (world : HttpWorld) {url : String}
    (maxBytes : Nat) {owner : ComponentRef} {start : Url} (haccess : host.hostAccessActive = true)
    (howner : host.runtimePermissionOwner = .ok owner) (hstart : world.parse url = some start) :
    host.get world url maxBytes =
      fetchFrom world (host.responseLimit maxBytes) host.maxHttpRedirects 0 start := by
  unfold HttpFetchHost.get
  rw [haccess, howner, hstart]
  rfl

/-- A fetch that is not admitted, or whose URL is not parsed, makes no connection. -/
theorem get_cases (host : HttpFetchHost) (world : HttpWorld) (url : String) (maxBytes : Nat) :
    (∃ error, host.get world url maxBytes = ([], .error error)) ∨
      ∃ owner start, host.hostAccessActive = true ∧ host.runtimePermissionOwner = .ok owner ∧
        world.parse url = some start := by
  unfold HttpFetchHost.get
  cases haccess : host.hostAccessActive with
  | false => exact .inl ⟨.accessNotActive, if_pos rfl⟩
  | true =>
      rw [if_neg (by decide)]
      cases howner : host.runtimePermissionOwner with
      | error check =>
          cases check with
          | denied => exact .inl ⟨.permissionDenied, rfl⟩
          | unavailable => exact .inl ⟨.unavailable, rfl⟩
      | ok owner =>
          cases hstart : world.parse url with
          | none => exact .inl ⟨.invalidUrl, rfl⟩
          | some start => exact .inr ⟨owner, start, rfl, rfl, rfl⟩

/-- An admitted fetch comes to a URL, by its redirects, whose client is bound to an address
that the filter misses: the URL has the address as its host, or it is the first one that the
filter lets through of those that the host resolves to. -/
def MeetsMissed (host : HttpFetchHost) (world : HttpWorld) (url : String) : Prop :=
  host.hostAccessActive = true ∧ (∃ owner, host.runtimePermissionOwner = .ok owner) ∧
    ∃ start round reached destination, world.parse url = some start ∧
      round ≤ host.maxHttpRedirects ∧ Reaches world 0 start round reached ∧
      buildBoundedHttpsClient (world.round round) reached = .ok destination ∧
      MissedByFilter destination

/-- A fetch is safe exactly when it does not come to an address that the filter misses. -/
theorem safeFetch_iff (host : HttpFetchHost) (world : HttpWorld) (url : String)
    (maxBytes : Nat) :
    SafeFetch host world maxBytes (host.get world url maxBytes) ↔
      ¬ MeetsMissed host world url := by
  rcases get_cases host world url maxBytes with
    ⟨error, heq⟩ | ⟨owner, start, haccess, howner, hstart⟩
  · have hnone : ¬ MeetsMissed host world url := by
      rintro ⟨haccess, ⟨owner, howner⟩, start, round, reached, destination, hstart, hle,
        hreaches, hbound, -⟩
      have hfetch := get_eq_fetchFrom world maxBytes haccess howner hstart
      have hmem : (⟨round, reached, destination⟩ : HttpConnection) ∈
          (host.get world url maxBytes).1 := by
        rw [hfetch, mem_fetchFrom_iff]
        exact ⟨hle.trans (Nat.le_add_left _ _), hreaches, hbound⟩
      rw [heq] at hmem
      cases hmem
    refine iff_of_true ?_ hnone
    rw [heq]
    exact ⟨(fun _ hmem => by cases hmem), Nat.zero_le _, fun _ h => by cases h⟩
  · have hfetch := get_eq_fetchFrom world maxBytes haccess howner hstart
    obtain ⟨hlength, hbody⟩ := fetchFrom_bounded world (host.responseLimit maxBytes)
      host.maxHttpRedirects 0 start
    rw [hfetch]
    constructor
    · rintro hsafe ⟨-, -, start', round, reached, destination, hstart', hle, hreaches, hbound,
        hmissed⟩
      rw [hstart] at hstart'
      cases hstart'
      have hmem : (⟨round, reached, destination⟩ : HttpConnection) ∈
          (fetchFrom world (host.responseLimit maxBytes) host.maxHttpRedirects 0 start).1 :=
        mem_fetchFrom_iff.mpr ⟨hle.trans (Nat.le_add_left _ _), hreaches, hbound⟩
      exact (safeConnection_iff hbound).mp (hsafe.connections _ hmem) hmissed
    · intro hmeets
      refine ⟨fun connection hmem => ?_, hlength, hbody⟩
      obtain ⟨hle, hreaches, hbound⟩ := mem_fetchFrom_iff.mp hmem
      refine (safeConnection_iff hbound).mpr fun hmissed => hmeets ?_
      exact ⟨haccess, ⟨owner, howner⟩, start, connection.round, connection.url,
        connection.destination, hstart, hle.trans (Nat.zero_add _).le, hreaches, hbound, hmissed⟩

/-! ## An embedded address -/

/-- The metadata service of a cloud, in the form of a translated address. -/
def metadataUrl : Url where
  scheme := "https"
  username := ""
  password := none
  host := some (.ipv6 ⟨0x64, 0xff9b, 0, 0, 0, 0, 0xa9fe, 0xa9fe⟩)
  portOrKnownDefault := some 443
  path := "/latest/meta-data"

/-- A world in which the metadata service answers. -/
def metadataWorld : HttpWorld where
  parse _ := some metadataUrl
  join _ _ := none
  display _ := "https://[64:ff9b::a9fe:a9fe]/latest/meta-data"
  round _ :=
    { toSocketAddrs := fun _ _ => none
      routedSourceIp := fun _ => none
      builds := true
      send := fun _ _ => .ok ⟨200, none, none, none, [1, 2, 3], true⟩ }

/-- A host that grants the permission to fetch. -/
def fetchingHost : HttpFetchHost :=
  ⟨true, .ok ⟨⟨"scene"⟩, ⟨"main"⟩⟩, 1024, 5⟩

/-- The fetch of a translated link-local address connects to it. -/
theorem fetches_translated_address :
    ¬ SafeFetch fetchingHost metadataWorld 1024
      (fetchingHost.get metadataWorld "https://[64:ff9b::a9fe:a9fe]/latest/meta-data" 1024) := by
  intro hsafe
  have hconnected : (fetchingHost.get metadataWorld
      "https://[64:ff9b::a9fe:a9fe]/latest/meta-data" 1024).1 =
      [⟨0, metadataUrl, .v6 ⟨0x64, 0xff9b, 0, 0, 0, 0, 0xa9fe, 0xa9fe⟩⟩] := by
    decide +kernel
  rcases (hsafe.connections _ (hconnected ▸ List.mem_cons_self)).destination with
    hpublic | htunnel
  · exact hpublic.2 .nat64 (by decide) (by decide)
  · obtain ⟨domain, hdomain⟩ := htunnel.domain
    cases hdomain

end Rintawa.WasmRuntime
