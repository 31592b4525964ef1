import ViewTree.Crash
import ViewTree.Data.Cache
import ViewTree.Data.Store

/-!
# Data — clients

A client is a record store that the host provides, with a state.  It may answer, refuse, crash or
not answer at all.  What it says about a request becomes the entry that the cache keeps.
-/

namespace ViewTree

/-- Why a store gives no records. -/
inductive StoreFault where
  | noRecord (id : String)
  | noStore
  | unreachable (message : String)
  | rejected (message : String)
deriving DecidableEq, Repr

/-- The message of a fault. -/
def StoreFault.message : StoreFault → String
  | .noRecord id => "record '" ++ id ++ "' not found"
  | .noStore => "no record store configured"
  | .unreachable message => "store unavailable: " ++ message
  | .rejected message => "store rejected request: " ++ message

/-- What a client says to a request. -/
inductive Reply (α : Type) where
  | answer (a : α)
  | refused (why : StoreFault)
  | crashed (crash : Crash)
  /-- No answer comes. -/
  | silent

namespace Reply

variable {α β : Type}

/-- The same reply with another answer. -/
def map (f : α → β) : Reply α → Reply β
  | answer a => answer (f a)
  | refused why => refused why
  | crashed crash => crashed crash
  | silent => silent

/-- What the cache keeps of a reply, if one came. -/
def entry? : Reply Value → Option Entry
  | answer v => some (.ready v)
  | refused why => some (.failed why.message)
  | crashed crash => some (.failed crash.describe)
  | silent => none

end Reply

/-- A record store with a state. -/
structure Client (σ : Type) where
  /-- The record with an id. -/
  find : String → σ → Reply Record × σ
  /-- The records that a query selects. -/
  select : Query → σ → Reply (List Record) × σ

namespace Client

variable {σ : Type}

/-- The value that answers a request: one record, or a list of them. -/
def ask (client : Client σ) (request : Request) (s : σ) : Reply Value × σ :=
  match request with
  | .one id =>
    let (reply, s) := client.find id s
    (reply.map Record.toValue, s)
  | .several query =>
    let (reply, s) := client.select query s
    (reply.map fun records => .list (records.map Record.toValue), s)

/-- The replies to several requests, asked for one after the other whatever the replies are. -/
def askAll (client : Client σ) : List Request → σ → List (Request × Reply Value) × σ
  | [], s => ([], s)
  | r :: rs, s =>
    let (reply, s) := client.ask r s
    let (replies, s) := askAll client rs s
    ((r, reply) :: replies, s)

end Client

/-- A store in memory as a client. -/
def Store.client : Client Store where
  find id s := match s.find? id with
    | some r => (.answer r, s)
    | none => (.refused (.noRecord id), s)
  select query s := (.answer (s.select query), s)

end ViewTree
