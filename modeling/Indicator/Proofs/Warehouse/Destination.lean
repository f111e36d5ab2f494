import Indicator.Proofs.Warehouse.Replies
import Indicator.Proofs.Web.Place

/-!
# Where requests go

Every request carries the credential of the client. The submission, the questions after the state
and the cancellation go to the host that the client was configured with, whatever the warehouse
answers. A chunk is fetched from wherever its link leads: a link that is an address by itself takes
the request, with its credential, to another host.

* `Exchange.AtBase`, `Exchange.LedAway`: a request to the configured host, and one that a link has
  led elsewhere.
* `Client.execute_destination`: **each request that is sent is one or the other.**
-/

namespace Indicator.Warehouse

open Text (lowerAscii)

variable {τ : Type}

/-! ### Destinations -/

/-- The request goes to the scheme and the host of a base address, if it is sent. -/
def Exchange.AtBase (base : Web.Url) (x : Exchange τ) : Prop :=
  ∀ url, x.url = some url → url.scheme = base.scheme ∧ lowerAscii url.host = lowerAscii base.host

/-- The request is for a chunk whose link is an address by itself. -/
def Exchange.LedAway (x : Exchange τ) : Prop :=
  ∃ link url, x.errand = .fetchChunk link ∧ Web.Url.parse link.toList = .ok url ∧
    url.isAbsolute = true ∧ x.url = some url

theorem Errand.link_head {errand : Errand} (h : ∀ link, errand ≠ .fetchChunk link) :
    errand.link.toList.head? = some '/' := by
  cases errand with
  | submit order => simp [link, statementsPath]
  | poll id => simp [link, statementsPath]
  | fetchChunk link => exact absurd rfl (h link)
  | cancel id => simp [link, statementsPath]

theorem Client.authorization_of_connect {client : Client τ} {connection : Connection}
    (h : client.connect = .ok connection) : connection.authorization = client.credential := by
  unfold connect at h
  obtain ⟨base, -, h⟩ := bind_eq_ok.mp h
  obtain ⟨authorization, hcheck, h⟩ := bind_eq_ok.mp h
  cases h
  rw [mapError_eq_ok, Text.Encoding.check] at hcheck
  split at hcheck
  · exact (Except.ok.inj hcheck).symm
  · cases hcheck

section

variable [Zero τ] [Add τ] [LT τ] [LE τ] [DecidableLT τ] [DecidableLE τ]

namespace Session

variable {s : Session τ} {connection : Connection} {limit : τ} {errand : Errand} {x : Exchange τ}
  {script : Script τ}

theorem authorization_of_sent {url : Web.Url}
    (h : s.exchange connection limit errand = (x, script)) (hurl : x.url = some url) :
    x.authorization = connection.credentialFor url := by
  rcases exchange_cases h with ⟨-, rfl, -⟩ | ⟨-, fault, -, rfl, -⟩ | ⟨-, found, -, rfl, -⟩
  · cases hurl
  · cases hurl
  · cases hurl
    rfl

theorem destination_of_exchange {host : String}
    (hbase : Web.Url.parseBase host = .ok connection.base)
    (h : s.exchange connection limit errand = (x, script)) :
    x.AtBase connection.base ∨ x.LedAway := by
  by_cases haway : x.LedAway
  · exact .inr haway
  · refine .inl fun url hurl => ?_
    have herrand := errand_of_exchange h
    rcases Web.Url.resolve_cases hbase (address_of_sent h hurl) with ⟨hparse, habsolute⟩ | hplace
    · exfalso
      by_cases hfetch : ∃ link, errand = .fetchChunk link
      · obtain ⟨link, rfl⟩ := hfetch
        exact haway ⟨link, url, herrand, hparse, habsolute, hurl⟩
      · have hlocal := Errand.link_head fun link hlink => hfetch ⟨link, hlink⟩
        rw [Web.Url.not_isAbsolute_local hlocal hparse] at habsolute
        cases habsolute
    · exact hplace

end Session

variable [Sub τ] [Timeline τ]

/-! ### Executions -/

/-- **Each request that an execution sends goes to the configured host**, or is for a chunk whose
link is an address by itself, whatever the warehouse answers; it carries the credential of the
client, unless its address holds one. -/
theorem Client.execute_destination (client : Client τ) (job : Job τ) (s : Session τ)
    (patience : Nat) :
    ∃ xs, (client.execute patience job s).2.exchanges = s.exchanges ++ xs ∧
      ∀ x ∈ xs, ∃ base, Web.Url.parseBase (normalHost client.host) = .ok base ∧
        (x.AtBase base ∨ x.LedAway) ∧
        ∀ url, x.url = some url → x.authorization = url.credential?.getD client.credential := by
  rcases execute_course client job s patience with ⟨failure, -, heq⟩ | ⟨fault, -, -, heq⟩ |
    ⟨connection, xs, stage, ended, -, hconn, hcourse, heq⟩
  · rw [heq]
    exact ⟨[], by simp, by simp⟩
  · rw [heq]
    exact ⟨[], by simp, by simp⟩
  · rw [heq]
    refine ⟨xs, hcourse.exchanges_eq, fun x hx => ?_⟩
    obtain ⟨before, stage', s', limit, script, -, -, -, hmade⟩ := hcourse.made hx
    refine ⟨connection.base, base_of_connect hconn,
      Session.destination_of_exchange (base_of_connect hconn) hmade, fun url hurl => ?_⟩
    have hcredential : x.authorization = connection.credentialFor url :=
      Session.authorization_of_sent hmade hurl
    rw [hcredential, Connection.credentialFor, authorization_of_connect hconn]

end

/-! ### Links to other hosts -/

/-- A warehouse whose result comes in two pages, of which the second is announced by a link. -/
def linkingSession (link : String) : Session Rat :=
  exactSession [
    exactResult [("data_array", .list []), ("next_chunk_internal_link", .str link)],
    exactDocument (.object [("data_array", .list [])])]

namespace Client

/-- A link without a host leads to the configured one. -/
theorem execute_destination_local :
    ∃ x y base, (exactClient.execute 4 exactJob (linkingSession "/chunks/1")).2.exchanges = [x, y] ∧
      Web.Url.parseBase (normalHost exactClient.host) = .ok base ∧ x.url.isSome ∧ x.AtBase base ∧
      y.url.isSome ∧ y.AtBase base := by
  obtain ⟨xs, hmade, hdestination⟩ :=
    execute_destination exactClient exactJob (linkingSession "/chunks/1") 4
  have hlines : (exactClient.execute 4 exactJob (linkingSession "/chunks/1")).2.exchanges.map
      (fun x => (x.url.isSome, x.errand.line)) =
        [(true, "POST", "/api/2.0/sql/statements"), (true, "GET", "/chunks/1")] := by
    decide +kernel
  obtain ⟨x, rest, hx, hfirst, hrest⟩ := List.map_eq_cons_iff.mp hlines
  obtain ⟨y, rfl, hsecond⟩ := List.map_eq_singleton_iff.mp hrest
  have hxs : xs = [x, y] := by rw [← hx, hmade]; rfl
  have hbase := base_of_connect exactClient_connect
  have hatBase : ∀ z ∈ [x, y], z.errand.link.toList.head? = some '/' →
      z.AtBase exactConnection.base := by
    intro z hz hlink
    obtain ⟨base, hfound, hplace, -⟩ := hdestination z (hxs ▸ hz)
    rw [hbase, Except.ok.injEq] at hfound
    rw [hfound]
    refine hplace.resolve_right ?_
    rintro ⟨link, url, herrand, hparse, habsolute, -⟩
    rw [herrand, Errand.link] at hlink
    rw [Web.Url.not_isAbsolute_local hlink hparse] at habsolute
    cases habsolute
  simp only [Prod.mk.injEq, Errand.line] at hfirst hsecond
  refine ⟨x, y, exactConnection.base, hx, hbase, hfirst.1, hatBase x (by simp) ?_, hsecond.1,
    hatBase y (by simp) ?_⟩
  · rw [hfirst.2.2]
    decide
  · rw [hsecond.2.2]
    decide

/-- **A link with a host of its own leads there**, and the request carries the same credential. -/
theorem execute_led_away :
    (exactClient.execute 4 exactJob (linkingSession "https://other.example/rows")).2.exchanges.map
        (fun x => (x.url.map Web.Url.text, x.authorization)) =
      [(some "https://adb-1.net/api/2.0/sql/statements", "Bearer dapi-test"),
        (some "https://other.example/rows", "Bearer dapi-test")] := by
  decide +kernel

end Client

end Indicator.Warehouse
