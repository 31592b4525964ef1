import ViewTree.Data.Client
import ViewTree.Render.Basic

/-!
# Render — settling

`settle` claims the requests that are free, asks the client for each of them and puts what it says
into the cache.  If one of them gets no reply, the whole is cancelled and every claim is given
back, also of those that got one.

`renderAndSettle` renders, settles what the surface waits for and renders again, until it waits for
nothing, nothing could be claimed or the rounds are used up.
-/

namespace ViewTree

/-- How settling ended. -/
inductive Settlement where
  /-- So many requests have an entry now that had none. -/
  | finished (count : Nat)
  /-- A request got no reply. -/
  | cancelled
deriving DecidableEq, Repr

/-- What settling leaves. -/
structure Settled (σ : Type) where
  settlement : Settlement
  cache : Cache
  state : σ

/-- What rendering and settling leave. -/
structure Rendered (σ : Type) where
  /-- The surface, unless settling was cancelled. -/
  surface : Option Surface
  cache : Cache
  state : σ

variable {σ : Type}

/-- The entries that replies give, if all replies came. -/
def Reply.entries? (replies : List (Request × Reply Value)) : Option (List (Request × Entry)) :=
  replies.mapM fun (request, reply) => reply.entry?.map fun entry => (request, entry)

/-- Asks for the requests that are free; without a client they all fail. -/
def settle (client? : Option (Client σ)) (requests : List Request) (cache : Cache) (s : σ) :
    Settled σ :=
  let (claimed, cache) := cache.claimAll requests
  match client? with
  | none =>
    let entries := claimed.map fun r => (r, Entry.failed StoreFault.noStore.message)
    ⟨.finished claimed.length, cache.insertAll entries, s⟩
  | some client =>
    let (replies, s) := client.askAll claimed s
    match Reply.entries? replies with
    | some entries => ⟨.finished claimed.length, cache.insertAll entries, s⟩
    | none => ⟨.cancelled, cache.releaseAll claimed, s⟩

namespace Renderer

/-- Settles and renders again, at most so many times. -/
def settleRounds (r : Renderer) (client? : Option (Client σ)) (v : Value) (scope : Scope) :
    Nat → Surface → Cache → σ → Rendered σ
  | 0, surface, cache, s => ⟨some surface, cache, s⟩
  | rounds + 1, surface, cache, s =>
    if surface.requests.isEmpty then ⟨some surface, cache, s⟩
    else
      let settled := settle client? surface.requests cache s
      match settled.settlement with
      | .cancelled => ⟨none, settled.cache, settled.state⟩
      | .finished 0 => ⟨some surface, settled.cache, settled.state⟩
      | .finished (_ + 1) =>
        settleRounds r client? v scope rounds (r.render settled.cache v scope) settled.cache
          settled.state

/-- The surface of a node once what it waits for is settled. -/
def renderAndSettle (r : Renderer) (client? : Option (Client σ)) (v : Value) (scope : Scope)
    (cache : Cache) (s : σ) : Rendered σ :=
  r.settleRounds client? v scope r.settings.maxSettleRounds.toNat (r.render cache v scope) cache s

end Renderer

end ViewTree
