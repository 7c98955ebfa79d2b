import MultiUserChat.Web.Main
/-!
# A page and its gateway

A page and the sessions behind its WebSockets. A WebSocket hands the messages of each side to the
other one in the order of their sending: the gateway reads the bytes of a request, and the page what
the session has told. The chat servers are what the events of the sessions say of them.
-/

namespace MultiUserChat.Web

/-- The session of a WebSocket, when it is created. -/
def Gateway.accepted : Gateway where
  session := ({} : ClientSession).send
    (.status "ws_connected" none none (literal "WebSocket 已连接"))

/-- A page and the sessions behind its WebSockets, by their numbers. -/
structure Site where
  /-- The page. -/
  page : Page
  /-- The sessions. -/
  gateways : Nat → Gateway := fun _ => .accepted
  /-- Number of requests that a session has read. -/
  handled : Nat → Nat := fun _ => 0
  /-- Number of notices that the page has read. -/
  shown : Nat → Nat := fun _ => 0

/-- What can happen to a site. -/
inductive SiteEvent
  /-- An event of the page that is no message of a session. -/
  | page (event : PageEvent)
  /-- A session reads the next request. -/
  | request (socket : Nat)
  /-- The page reads the next notice. -/
  | notice (socket : Nat)
  /-- An event of a session that is no message of the page. -/
  | gateway (socket : Nat) (happening : Happening)

/-- The page's event is a message of a session. -/
def PageEvent.isMessage : PageEvent → Bool
  | message _ _ => true
  | _ => false

/-- The session's event is a message of the page. -/
def Happening.isBrowser : Happening → Bool
  | browser _ => true
  | _ => false

namespace Site

/-- A session goes on. -/
def updateGateway (site : Site) (socket : Nat) (gateway : Gateway) : Site :=
  { site with gateways := Function.update site.gateways socket gateway }

/-- One step, when it is possible. -/
def step [Browser] (settings : Settings) (site : Site) : SiteEvent → Option Site
  | .page event =>
    if event.isMessage then none else (site.page.step event).map fun page => { site with page }
  | .request socket => do
    let request ← (site.page.sockets socket).sent[site.handled socket]?
    if (site.gateways socket).session.closing then failure
    let gateway ←
      (site.gateways socket).handleRaw settings (Utf8.encode request.json.stringify)
    return { site.updateGateway socket gateway with
      handled := Function.update site.handled socket (site.handled socket + 1) }
  | .notice socket => do
    let notice ← (site.gateways socket).session.notices[site.shown socket]?
    let page ← site.page.step (.message socket notice)
    return { site with
      page
      shown := Function.update site.shown socket (site.shown socket + 1) }
  | .gateway socket happening =>
    if happening.isBrowser ∨ site.page.created ≤ socket then none
    else ((site.gateways socket).step happening).map fun gateway =>
      site.updateGateway socket gateway

end Site

end MultiUserChat.Web
