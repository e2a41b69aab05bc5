import Lineage.Repository.Access
import Lineage.Source.Model

/-!
The cache of models. Each file at each commit is read and parsed at most once; a revision that cannot
be parsed is remembered as such, a failure to read is not. While a caller builds a model its key is
in flight, and other callers of the same key wait for the outcome.
-/

namespace Lineage

/-- What is remembered for a file at a commit. -/
inductive CachedModel where
  | model (m : Model)
  | unparseable

/-- A commit and a path. -/
abbrev CacheKey : Type := String × String

/-- The cache: its entries, the keys that are being built, and counters of how it was used. -/
structure Cache where
  entries : List (CacheKey × CachedModel) := []
  inFlight : List CacheKey := []
  hits : Nat := 0
  misses : Nat := 0
  parseFailures : Nat := 0

/-- How a cache was used, in numbers. -/
structure CacheStats where
  hits : Nat
  misses : Nat
  hitRate : String
  cachedModels : Nat
  parseFailures : Nat
  deriving DecidableEq, Repr

/-- The answer of the cache to a caller. -/
inductive CacheReply where
  | hit (m : CachedModel)
  | wait
  | build

namespace Cache

/-- The empty cache. -/
def empty : Cache := {}

/-- The number of entries. -/
def size (c : Cache) : Nat := c.entries.length

/-- The entry of a key. -/
def get? (c : Cache) (key : CacheKey) : Option CachedModel := c.entries.lookup key

/-- The cache has an entry for a key. -/
def contains (c : Cache) (key : CacheKey) : Bool := (c.get? key).isSome

/-- Asks for a key: an entry is a hit, the first caller without one has to build it. -/
def request (c : Cache) (key : CacheKey) : CacheReply × Cache :=
  match c.get? key with
  | some m => (.hit m, { c with hits := c.hits + 1 })
  | none =>
    if c.inFlight.contains key then (.wait, c)
    else (.build, { c with inFlight := key :: c.inFlight, misses := c.misses + 1 })

/-- Ends a build with its outcome. -/
def settle (c : Cache) (key : CacheKey) (m : CachedModel) : Cache :=
  { c with entries := (key, m) :: c.entries, inFlight := c.inFlight.filter (· != key) }

/-- Ends a build that gave no outcome. -/
def abandon (c : Cache) (key : CacheKey) : Cache :=
  { c with inFlight := c.inFlight.filter (· != key) }

/-- The share of requests that were hits, as a percentage with one decimal place. -/
def hitRate (c : Cache) : String :=
  let total := c.hits + c.misses
  let rate :=
    if total = 0 then Float.ofNat 0 else Float.ofNat c.hits / Float.ofNat total * Float.ofNat 100
  Decimal.fixed 1 rate ++ "%"

/-- The statistics of the cache. -/
def stats (c : Cache) : CacheStats where
  hits := c.hits
  misses := c.misses
  hitRate := c.hitRate
  cachedModels := c.size
  parseFailures := c.parseFailures

/-- Drops all entries and counters. -/
def clear (c : Cache) : Cache := { c with entries := [], hits := 0, misses := 0, parseFailures := 0 }

end Cache

/-! ### Sessions -/

/-- Why a session stops: the repository cannot read something, it does not take a question, a text
that a model needs cannot be written, a model is being built that nobody finishes, or a walk was
given too few steps. -/
inductive Stop where
  | repository (fault : RepositoryFault)
  | unsupported
  | model (fault : ModelFault)
  | stalled
  | unfinished
  deriving DecidableEq, Repr

/-- The message for a stop. -/
def Stop.message : Stop → String
  | repository fault => fault.message
  | unsupported => "the repository does not take this question"
  | model fault => fault.message
  | stalled => "the model is never finished"
  | unfinished => "the walk is not finished"

/-- What a session works on: the world of the repository, the cache, and the events so far, the
latest first. -/
structure Session (σ : Type) where
  world : σ
  cache : Cache := {}
  events : List Event := []

/-- An action of a session. It may stop; what has happened until then stays. -/
abbrev SessionM (σ : Type) : Type → Type := ExceptT Stop (StateM (Session σ))

/-- A way to build models from the bytes of a file. -/
abbrev ModelBuilder : Type := List UInt8 → String → Except ModelFault Model

namespace SessionM

variable {σ α : Type}

/-- The stop that a refusal is. -/
def stopOf : Refusal → Stop
  | .fault f => .repository f
  | .unsupported => .unsupported

/-- Asks the repository. -/
def ask (q : Asked σ α) : SessionM σ α := fun s =>
  let (answer, events, world) := q s.world
  (answer.mapError stopOf, { s with world, events := events.reverse ++ s.events })

/-- Tells an event. -/
def tell (level : Level) (name : String) (fields : List (String × Json)) : SessionM σ Unit :=
  modify fun s => { s with events := ⟨level, name, fields⟩ :: s.events }

/-- Changes the cache. -/
def onCache (f : Cache → Cache) : SessionM σ Unit := modify fun s => { s with cache := f s.cache }

/-- Asks the cache for a key. -/
def request (key : CacheKey) : SessionM σ CacheReply := fun s =>
  let (reply, cache) := s.cache.request key
  (.ok reply, { s with cache })

/-- Reads and parses a file. -/
def buildModel (r : Repository σ) (build : ModelBuilder) (id path : String) :
    SessionM σ CachedModel := do
  let bytes ← ask (r.readBlob id path)
  match build bytes path with
  | .ok m =>
    tell .debug "model_built" [("commit", .text (Commit.short id)), ("path", .text path),
      ("elements", .nat m.size)]
    return .model m
  | .error (.parse f) =>
    tell .warning "revision_unparseable" [("commit", .text (Commit.short id)), ("path", .text path),
      ("error", .text f.message)]
    onCache fun c => { c with parseFailures := c.parseFailures + 1 }
    return .unparseable
  | .error f => throw (.model f)

/-- The model of a file at a commit, from the cache or built now. -/
def modelOf (r : Repository σ) (build : ModelBuilder) (id path : String) :
    SessionM σ CachedModel := do
  let key := (id, path)
  match ← request key with
  | .hit m => return m
  | .wait => throw .stalled
  | .build =>
    let m ← tryCatch (buildModel r build id path) fun stop => do
      onCache (·.abandon key)
      throw stop
    onCache (·.settle key m)
    return m

end SessionM

end Lineage
