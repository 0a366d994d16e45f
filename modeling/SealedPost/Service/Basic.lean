import SealedPost.Feed
import SealedPost.Ledger
import SealedPost.Service.Clock
import SealedPost.Service.Endpoint
import SealedPost.Service.Request
import SealedPost.Token.Authentication

/-! # The service

The service holds a ledger, the identifiers of used tokens and the live feed with its
sockets. Posting a message takes a token, stores the message and sends its announcement
to the subscribers; all other requests leave the state alone. -/

namespace SealedPost

/-- What goes out over a socket. -/
inductive Signal where
  | accept
  | send (text : Text)
  | close (code : Nat)
deriving DecidableEq

/-- A socket: how many sends it took, when sends start to fail, and whether its endpoint
still runs. -/
structure Socket where
  name : Text
  sent : Nat
  failAfter : Option Nat
  broken : Bool
  running : Bool

/-- Whether the next send to a socket arrives. -/
def Socket.isAlive (k : Socket) : Bool :=
  !k.broken && match k.failAfter with
    | some limit => k.sent < limit
    | none => true

/-- What was sent, with the names of the sockets. -/
abbrev Transcript := List (Text × Signal)

/-- The state of the service. Sockets are numbered in the order of their connections. -/
structure Service where
  settings : Settings
  clock : Service.Clock
  ledger : Ledger
  cache : Token.Cache
  feed : Feed Nat
  sockets : List Socket

namespace Service

/-- A service at the start of time with an empty ledger. -/
def start (settings : Settings) (counter : Int) : Service :=
  ⟨settings, Clock.ofInt 0, Ledger.empty counter, [], Feed.empty, []⟩

/-- Sends over a socket; none if the send fails. -/
def transmit (s : Service) (id : Nat) (signal : Signal) :
    Option (Service × (Text × Signal)) :=
  match s.sockets[id]? with
  | none => none
  | some k =>
    if k.isAlive then
      some ({ s with sockets := s.sockets.set id { k with sent := k.sent + 1 } },
        (k.name, signal))
    else none

/-- Sends a text to sockets one after the other; a failed send drops the subscriber. -/
def deliver (text : Text) : List Nat → Service → Service × Transcript
  | [], s => (s, [])
  | id :: rest, s =>
    match s.transmit id (.send text) with
    | some (s, entry) =>
      let (s, log) := deliver text rest s
      (s, entry :: log)
    | none => deliver text rest { s with feed := s.feed.disconnect id }

/-- The live message for an announcement. -/
def liveMessage (a : PublicAnnouncement) : Text :=
  Json.writeCompact (.obj [("type", .str "message.sent"), ("data", a.toJson)])

/-- The first message over a socket: the events that it missed. -/
def firstMessage (events : List Announcement) : Text :=
  Json.writeCompact (.obj [("type", .str "events.init"),
    ("data", .arr (events.map fun a => a.toPublic.toJson))])

/-- Sends an announcement to the subscribers that have not seen it. -/
def publish (s : Service) (a : Announcement) : Service × Transcript :=
  deliver (liveMessage a.toPublic) (s.feed.audience a.index) s

/-- The response to a refusal of the ledger. -/
def ledgerResponse (fault : LedgerFault) : Response :=
  match fault with
  | .counterExhausted => .detail 507 fault.message
  | .negativeCounter | .counterTooLarge => .failed (.ledger fault)
  | .emptyMessage | .envelopeShape _ => .detail 400 fault.message

/-- Posts a message: the body is read first, then the token is taken, then the form of the
body is checked, and last the ledger is asked. -/
def post (s : Service) (r : Request) : Response × Service × Transcript :=
  match readBody r with
  | .error response => (response, s, [])
  | .ok body =>
    match Token.authenticate s.settings s.clock.seconds s.cache (r.header? "authorization") with
    | (.error refusal, cache) =>
      (.detail refusal.status refusal.message, { s with cache := cache }, [])
    | (.ok account, cache) =>
      let s := { s with cache := cache }
      match readPosting body with
      | .error violations => (.invalid violations, s, [])
      | .ok posting =>
        match s.ledger.send account posting.envelope posting.message with
        | .error fault => (ledgerResponse fault, s, [])
        | .ok (a, ledger) =>
          let (s, log) := publish { s with ledger := ledger } a
          (.json 202 a.toPublic.toJson, s, log)

/-- The message of a key in hexadecimal. -/
def fetch (s : Service) (key : Text) : Response :=
  match Bytes.ofHex? key with
  | none => .detail 400 "Invalid message key"
  | some key =>
    match s.ledger.get? key with
    | none => .detail 404 "Message not found"
    | some message => .json 200 (StoredMessage.toJson ⟨Bytes.toHex key, message⟩)

/-- The announcements from the index in a query on. -/
def listEvents (s : Service) (query : Text) : Response :=
  match readSince query with
  | .error violations => .invalid violations
  | .ok since => .json 200 (.arr ((s.ledger.eventsSince since).map fun a => a.toPublic.toJson))

/-- The report that the service is up, with the date. -/
def health (s : Service) : Response :=
  match s.clock.toText with
  | .ok ts => .json 200 (.obj [("status", .str "ok"), ("ts", .str ts)])
  | .error fault => .failed (.clock fault)

/-- Answers a request. -/
def request (s : Service) (r : Request) : Response × Service × Transcript :=
  match Endpoint.ofPath? r.path with
  | none =>
    if Endpoint.isRedirected r.path then (.content 307 [], s, [])
    else (.detail 404 "Not Found", s, [])
  | some endpoint =>
    if r.method ≠ endpoint.method then (.detail 405 "Method Not Allowed", s, [])
    else match endpoint with
      | .health => (health s, s, [])
      | .messages => post s r
      | .message key => (fetch s key, s, [])
      | .events => (listEvents s r.query, s, [])

/-- The number of the last socket with a name. -/
def socketNumber? (s : Service) (name : Text) : Option Nat :=
  (s.sockets.zipIdx.reverse.find? fun entry => entry.1.name = name).map Prod.snd

/-- Marks a socket in a way. -/
def mark (s : Service) (id : Nat) (change : Socket → Socket) : Service :=
  { s with sockets := s.sockets.modify id change }

/-- Refuses a connection with a code. -/
def refuse (s : Service) (id code : Nat) : Service × Transcript :=
  match s.transmit id (.close code) with
  | some (s, entry) => (s, [entry])
  | none => (s, [])

/-- Serves the live feed over a new socket: accepts it, registers it together with its
backlog, and sends the backlog. A failed send ends the endpoint. -/
def serveFeed (s : Service) (id : Nat) (since : Int) : Service × Transcript :=
  match s.transmit id .accept with
  | none => (s, [])
  | some (s, accepted) =>
    let events := s.ledger.eventsSince since
    let subscribed := s.feed.subscribe id since (events.map Announcement.index)
    match { s with feed := subscribed }.transmit id (.send (firstMessage events)) with
    | none => (s, [accepted])
    | some (s, sent) =>
      (s.mark id fun k => { k with running := true }, [accepted, sent])

/-- Opens a socket. Outside the path of the feed it is closed at once; so it is, with
another code, if the query is malformed. -/
def connect (s : Service) (name path query : Text) (failAfter : Option Nat) :
    Service × Transcript :=
  let id := s.sockets.length
  let s := { s with sockets := s.sockets ++ [⟨name, 0, failAfter, false, false⟩] }
  if Endpoint.isFeed path then
    match readSince query with
    | .error _ => refuse s id 1008
    | .ok since => serveFeed s id since
  else refuse s id 1000

/-- The client of a socket goes away. -/
def hangUp (s : Service) (name : Text) : Service :=
  match s.socketNumber? name with
  | none => s
  | some id =>
    { s.mark id (fun k => { k with running := false }) with feed := s.feed.disconnect id }

/-- Sends to a socket fail from now on. -/
def sever (s : Service) (name : Text) : Service :=
  match s.socketNumber? name with
  | none => s
  | some id => s.mark id fun k => { k with broken := true }

/-- Whether the endpoint of a socket still runs. -/
def isRunning (s : Service) (name : Text) : Bool :=
  match s.socketNumber? name with
  | none => false
  | some id => (s.sockets[id]?.map Socket.running).getD false

/-- The subscribers by name with their cursors. -/
def subscribers (s : Service) : List (Text × Int) :=
  s.feed.cursors.map fun entry =>
    (((s.sockets[entry.1]?).map Socket.name).getD [], entry.2)

end Service
end SealedPost
