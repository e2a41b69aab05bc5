import Lineage.Proofs.History.Balance

/-! # The books of a cache

A cache is used by calls: lookups, each with a builder, and calls that clear the cache or ask about
it (`CacheCall`).  Between two calls the world may change in any way (`TimedCall`), so a file that
cannot be read at one time may be read at another.  A record says what a call gave, which files it
read, and the cache before and after it (`CacheRecord`).

A lookup does one of three things to a cache in which nothing is being built (`Cache.Looked`): an
entry is handed out and nothing is read; or the file is read and what comes of it is entered; or the
lookup raises, and is undone but for its count.  So each call keeps the books, which compare the
cache with the records since it was cleared last (`CacheCall.books_serve`), and calls one after the
other that start with an empty cache keep them too (`cache_keeps_books`).
-/
namespace Lineage
variable {σ : Type}

/-! ### Calls and records -/

/-- A call of a cache. -/
inductive CacheCall where
  | modelOf (build : ModelBuilder) (id path : String)
  | clear
  | contains (key : CacheKey)
  | size
  | stats

/-- What a call of a cache gives. -/
inductive CacheAnswer where
  | model (m : CachedModel)
  | cleared
  | truth (b : Bool)
  | number (n : Nat)
  | stats (s : CacheStats)

/-- A call, and what becomes of the world between the call before and this one. -/
structure TimedCall (σ : Type) where
  meanwhile : σ → σ
  call : CacheCall

/-- A call that was served: its answer, the files that it read, and the cache before and after. -/
structure CacheRecord where
  call : CacheCall
  answer : Except Stop CacheAnswer
  reads : List CacheKey
  before : Cache
  after : Cache

/-- The repository, with a note in its world of the files that are read, the latest first. -/
def Repository.noting (r : Repository σ) : Repository (σ × List CacheKey) where
  resolve id := (r.resolve id).within Prod.fst fun s t => (s, t.2)
  parentsTouching id path := (r.parentsTouching id path).within Prod.fst fun s t => (s, t.2)
  readBlob id path := (r.readBlob id path).within Prod.fst fun s t => (s, (id, path) :: t.2)
  changedPaths id parent := (r.changedPaths id parent).within Prod.fst fun s t => (s, t.2)

/-- The session, with notes in its world. -/
def Session.noting (s : Session σ) (notes : List CacheKey) : Session (σ × List CacheKey) :=
  ⟨(s.world, notes), s.cache, s.events⟩

namespace CacheCall

/-- The call clears the cache. -/
def isClear : CacheCall → Bool
  | clear => true
  | modelOf .. | contains _ | size | stats => false

/-- The call asks for a model. -/
def isLookup : CacheCall → Bool
  | modelOf .. => true
  | clear | contains _ | size | stats => false

/-- Performs a call. -/
def perform (r : Repository σ) : CacheCall → SessionM σ CacheAnswer
  | modelOf build id path => return .model (← SessionM.modelOf r build id path)
  | clear => do
    SessionM.onCache Cache.clear
    return .cleared
  | contains key => return .truth ((← get).cache.contains key)
  | size => return .number (← get).cache.size
  | stats => return .stats (← get).cache.stats

/-- The files that a call reads. -/
def reads (r : Repository σ) (call : CacheCall) (s : Session σ) : List CacheKey :=
  (call.perform r.noting (s.noting [])).2.world.2

/-- Serves a call. -/
def serve (r : Repository σ) (t : TimedCall σ) (s : Session σ) : CacheRecord × Session σ :=
  let start := { s with world := t.meanwhile s.world }
  let (answer, s') := t.call.perform r start
  (⟨t.call, answer, t.call.reads r start, s.cache, s'.cache⟩, s')

/-- Serves calls, of which the latest comes first, and so do their records. -/
def serveAll (r : Repository σ) : List (TimedCall σ) → Session σ → List CacheRecord × Session σ
  | [], s => ([], s)
  | t :: earlier, s =>
    let (log, s) := serveAll r earlier s
    let (record, s) := serve r t s
    (record :: log, s)

end CacheCall

namespace CacheRecord

/-- The call raised. -/
def raised (x : CacheRecord) : Bool := !x.answer.toBool

/-- The records since the cache was cleared last, or all. -/
def sinceClear (log : List CacheRecord) : List CacheRecord := log.takeWhile fun x => !x.call.isClear

/-- The lookups since the cache was cleared last. -/
def lookups (log : List CacheRecord) : List CacheRecord := (sinceClear log).filter (·.call.isLookup)

/-- The files that were read since the cache was cleared last, each with whether a model or a
failure to parse came of it. -/
def readings (log : List CacheRecord) : List (CacheKey × Bool) :=
  (sinceClear log).flatMap fun x => x.reads.map fun key => (key, !x.raised)

variable {x : CacheRecord} {log : List CacheRecord}

theorem sinceClear_clear (h : x.call = .clear) : sinceClear (x :: log) = [] :=
  List.takeWhile_cons_of_neg (by rw [h]; decide)

theorem sinceClear_cons (h : x.call.isClear = false) :
    sinceClear (x :: log) = x :: sinceClear log :=
  List.takeWhile_cons_of_pos (by rw [h]; rfl)

theorem lookups_lookup (hclear : x.call.isClear = false) (hlookup : x.call.isLookup = true) :
    lookups (x :: log) = x :: lookups log := by
  rw [lookups, sinceClear_cons hclear, List.filter_cons, if_pos hlookup, lookups]

theorem lookups_other (hclear : x.call.isClear = false) (hlookup : x.call.isLookup = false) :
    lookups (x :: log) = lookups log := by
  rw [lookups, sinceClear_cons hclear, List.filter_cons, if_neg (by rw [hlookup]; decide), lookups]

theorem readings_cons (hclear : x.call.isClear = false) :
    readings (x :: log) = x.reads.map (fun key => (key, !x.raised)) ++ readings log := by
  rw [readings, sinceClear_cons hclear, List.flatMap_cons, readings]

end CacheRecord

/-! ### What a lookup does -/

/-- What a lookup of a key does to a cache in which nothing is being built: the outcome, what is
read, and the cache after it. -/
inductive Cache.Looked (c : Cache) (key : CacheKey) :
    Except Stop CachedModel → List CacheKey → Cache → Prop
  | hit {m : CachedModel} (entry : c.get? key = some m) :
    c.Looked key (.ok m) [] { c with hits := c.hits + 1 }
  | raised {stop : Stop} (fresh : c.get? key = none) (ended : stop ≠ .stalled) :
    c.Looked key (.error stop) [key] { c with misses := c.misses + 1 }
  | built {m : CachedModel} (fresh : c.get? key = none) :
    c.Looked key (.ok m) [key]
      { c with
        entries := (key, m) :: c.entries
        misses := c.misses + 1
        parseFailures := c.parseFailures + if m.parsed then 0 else 1 }

/-- A key that is built and then not leaves no key that is being built, where there was none. -/
theorem Cache.released {c : Cache} {key : CacheKey} (hidle : c.inFlight = []) :
    (key :: c.inFlight).filter (· != key) = c.inFlight := by
  rw [hidle, List.filter_cons_of_neg (by simp), List.filter_nil]

namespace SessionM
open Walk
variable {r : Repository σ} {build : ModelBuilder} {id path : String}

/-- Building counts a file that cannot be parsed, and does nothing else to the cache. -/
theorem buildModel_counts (s : Session σ) :
    (buildModel r build id path s).2.cache = { s.cache with
      parseFailures := s.cache.parseFailures
        + match (buildModel r build id path s).1 with
          | .ok m => if m.parsed then 0 else 1
          | .error _ => 0 } := by
  unfold buildModel
  rcases hbytes : (ask (r.readBlob id path) s).1 with stop | bytes
  · rw [bind_of_error hbytes]
    rfl
  · rw [bind_of_ok hbytes]
    rcases build bytes path with fault | m
    · cases fault <;> rfl
    · rfl

/-- Building is never left unfinished. -/
theorem buildModel_ended {s : Session σ} {stop : Stop}
    (h : (buildModel r build id path s).1 = .error stop) : stop ≠ .stalled := by
  obtain ⟨refusal, -, rfl⟩ | ⟨_, fault, -, rfl, -⟩ := buildModel_error h
  · cases refusal <;> nofun
  · nofun

/-- Building reads the file, once; to note this changes nothing else. -/
theorem buildModel_noting (s : Session σ) (notes : List CacheKey) :
    buildModel r.noting build id path (s.noting notes)
      = ((buildModel r build id path s).1,
        (buildModel r build id path s).2.noting ((id, path) :: notes)) := by
  have hask : ask (r.noting.readBlob id path) (s.noting notes)
      = ((ask (r.readBlob id path) s).1,
        (ask (r.readBlob id path) s).2.noting ((id, path) :: notes)) := rfl
  unfold buildModel
  rw [bind_apply, bind_apply, hask]
  rcases ask (r.readBlob id path) s with ⟨stop | bytes, s'⟩
  · rfl
  · rcases hbuild : build bytes path with fault | m
    · cases fault <;> simp only [hbuild] <;> rfl
    · simp only [hbuild]
      rfl

/-- **A lookup does one of three things** to a cache in which nothing is being built; to note what
it reads changes nothing else. -/
theorem modelOf_looked (r : Repository σ) (build : ModelBuilder) (id path : String) {s : Session σ}
    (hidle : s.cache.inFlight = []) :
    ∃ read, s.cache.Looked (id, path) (modelOf r build id path s).1 read
        (modelOf r build id path s).2.cache ∧
      ∀ notes, modelOf r.noting build id path (s.noting notes)
        = ((modelOf r build id path s).1,
          (modelOf r build id path s).2.noting (read ++ notes)) := by
  cases hentry : s.cache.get? (id, path) with
  | some m =>
    refine ⟨[], ?_, fun notes => ?_⟩
    · rw [modelOf_hit hentry]
      exact .hit hentry
    · rw [modelOf_hit hentry, modelOf_hit (s := s.noting notes) hentry]
      rfl
  | none =>
    have hfree : s.cache.inFlight.contains (id, path) = false := by rw [hidle]; rfl
    let s₀ : Session σ := { s with cache := { s.cache with
      inFlight := (id, path) :: s.cache.inFlight, misses := s.cache.misses + 1 } }
    have hcounts : (buildModel r build id path s₀).2.cache = _ := buildModel_counts s₀
    rw [modelOf_miss hentry hfree]
    refine ⟨[(id, path)], ?_, fun notes => ?_⟩
    · rcases hbuilt : buildModel r build id path s₀ with ⟨stop | m, s₁⟩ <;> rw [hbuilt] at hcounts
      · change s.cache.Looked (id, path) (.error stop) [(id, path)] (s₁.cache.abandon (id, path))
        rw [hcounts, Cache.abandon, Cache.released hidle]
        exact .raised hentry (buildModel_ended (congrArg Prod.fst hbuilt))
      · change s.cache.Looked (id, path) (.ok m) [(id, path)] (s₁.cache.settle (id, path) m)
        rw [hcounts, Cache.settle, Cache.released hidle]
        exact .built hentry
    · have hnoting : buildModel r.noting build id path { s.noting notes with cache :=
          { (s.noting notes).cache with
            inFlight := (id, path) :: (s.noting notes).cache.inFlight
            misses := (s.noting notes).cache.misses + 1 } } = _ :=
        buildModel_noting s₀ notes
      rw [modelOf_miss (s := s.noting notes) hentry hfree, hnoting]
      rcases buildModel r build id path s₀ with ⟨stop | m, s₁⟩ <;> rfl

end SessionM

/-- What a call does to a cache in which nothing is being built. -/
inductive CacheRecord.Lawful : CacheRecord → Prop
  | lookup {build : ModelBuilder} {id path : String} {outcome : Except Stop CachedModel}
      {reads : List CacheKey} {c c' : Cache} (looked : c.Looked (id, path) outcome reads c') :
    Lawful ⟨.modelOf build id path, outcome.map .model, reads, c, c'⟩
  | clear {c : Cache} : Lawful ⟨.clear, .ok .cleared, [], c, c.clear⟩
  | question {call : CacheCall} {answer : CacheAnswer} {c : Cache} (keeps : call.isClear = false)
      (asks : call.isLookup = false) : Lawful ⟨call, .ok answer, [], c, c⟩

namespace CacheCall
variable {r : Repository σ}

theorem perform_modelOf (build : ModelBuilder) (id path : String) (s : Session σ) :
    (modelOf build id path).perform r s
      = ((SessionM.modelOf r build id path s).1.map .model,
        (SessionM.modelOf r build id path s).2) := by
  rw [perform, Walk.bind_apply]
  rcases SessionM.modelOf r build id path s with ⟨stop | m, s'⟩ <;> rfl

/-- What a lookup does, with the files that it reads as a call. -/
theorem modelOf_looked (r : Repository σ) (build : ModelBuilder) (id path : String) {s : Session σ}
    (hidle : s.cache.inFlight = []) :
    s.cache.Looked (id, path) (SessionM.modelOf r build id path s).1
        ((modelOf build id path).reads r s) (SessionM.modelOf r build id path s).2.cache ∧
      ∀ notes, SessionM.modelOf r.noting build id path (s.noting notes)
        = ((SessionM.modelOf r build id path s).1, (SessionM.modelOf r build id path s).2.noting
          ((modelOf build id path).reads r s ++ notes)) := by
  obtain ⟨read, hlooked, hnoting⟩ := SessionM.modelOf_looked r build id path hidle
  have hreads : (modelOf build id path).reads r s = read := by
    rw [reads, perform_modelOf, hnoting]
    exact List.append_nil read
  exact ⟨hreads ▸ hlooked, hreads ▸ hnoting⟩

/-- **To note what a call reads changes nothing else.** -/
theorem perform_noting (r : Repository σ) (call : CacheCall) {s : Session σ}
    (hidle : s.cache.inFlight = []) (notes : List CacheKey) :
    call.perform r.noting (s.noting notes)
      = ((call.perform r s).1, (call.perform r s).2.noting (call.reads r s ++ notes)) := by
  cases call with
  | modelOf build id path =>
    rw [perform_modelOf, perform_modelOf, (modelOf_looked r build id path hidle).2]
  | clear | contains | size | stats => rfl

/-- A call that is served to a cache in which nothing is being built is lawful. -/
theorem serve_lawful (r : Repository σ) (t : TimedCall σ) {s : Session σ}
    (hidle : s.cache.inFlight = []) : (serve r t s).1.Lawful := by
  obtain ⟨meanwhile, call⟩ := t
  cases call with
  | modelOf build id path =>
    simp only [serve, perform_modelOf]
    exact .lookup
      (modelOf_looked r build id path (s := { s with world := meanwhile s.world }) hidle).1
  | clear => exact .clear
  | contains | size | stats => exact .question rfl rfl

end CacheCall

/-! ### Books -/

open CacheRecord in
/-- The cache agrees with the records of the calls that it has served, the latest first. -/
structure Cache.Books (c : Cache) (log : List CacheRecord) : Prop where
  /-- Nothing is being built. -/
  idle : c.inFlight = []
  /-- Each lookup is a hit or a miss. -/
  requests : c.hits + c.misses = (lookups log).length
  /-- Each miss has an entry, unless it raised. -/
  entries : c.size + (sinceClear log).countP raised = c.misses
  /-- No file has two entries. -/
  distinct : (c.entries.map Prod.fst).Nodup
  /-- The entries of files that cannot be parsed are counted. -/
  failures : c.parseFailures = c.entries.countP fun entry => !entry.2.parsed
  /-- What was read with a model or a failure to parse as outcome has an entry. -/
  kept : ∀ key, (key, true) ∈ readings log → key ∈ c.entries.map Prod.fst
  /-- It is not read again. -/
  readOnce : (readings log).Pairwise fun later earlier => earlier.2 = true → later.1 ≠ earlier.1

namespace Cache
open CacheRecord

theorem books_empty : Books {} [] where
  idle := rfl
  requests := rfl
  entries := rfl
  distinct := .nil
  failures := rfl
  kept := nofun
  readOnce := .nil

variable {c c' : Cache} {log : List CacheRecord}

theorem Books.clear {x : CacheRecord} (h : c.Books log) (hx : x.call = .clear) :
    c.clear.Books (x :: log) := by
  have hsince : sinceClear (x :: log) = [] := sinceClear_clear hx
  have hlookups : lookups (x :: log) = [] := by rw [lookups, hsince]; rfl
  have hreadings : readings (x :: log) = [] := by rw [readings, hsince]; rfl
  exact {
    idle := h.idle
    requests := by rw [hlookups]; rfl
    entries := by rw [hsince]; rfl
    distinct := .nil
    failures := rfl
    kept := by rw [hreadings]; exact nofun
    readOnce := by rw [hreadings]; exact .nil }

/-- A file that is about to be read was not read with success. -/
theorem Books.unread (h : c.Books log) {key : CacheKey} (fresh : c.get? key = none) :
    ∀ earlier ∈ readings log, earlier.2 = true → key ≠ earlier.1 := by
  rintro ⟨_, _⟩ hearlier rfl rfl
  exact (c.get?_eq_none key).mp fresh (h.kept key hearlier)

section Lookups
variable {x : CacheRecord} {key : CacheKey} (hkeeps : x.call.isClear = false)
  (hasks : x.call.isLookup = true)
include hkeeps

/-- A file without an entry that is read now was not read with success before. -/
theorem Books.readOnce_of_fresh (h : c.Books log) (fresh : c.get? key = none)
    (hreads : x.reads = [key]) :
    (readings (x :: log)).Pairwise fun later earlier =>
      earlier.2 = true → later.1 ≠ earlier.1 := by
  rw [readings_cons hkeeps, hreads]
  exact List.pairwise_cons.mpr ⟨h.unread fresh, h.readOnce⟩

include hasks

theorem Books.length_lookups (h : c.Books log) :
    (lookups (x :: log)).length = c.hits + c.misses + 1 := by
  rw [lookups_lookup hkeeps hasks, List.length_cons, h.requests]

/-- A hit keeps the books. -/
theorem Books.hit (h : c.Books log) (hreads : x.reads = []) (hraised : x.raised = false) :
    { c with hits := c.hits + 1 }.Books (x :: log) where
  idle := h.idle
  requests := by
    rw [h.length_lookups hkeeps hasks]
    exact Nat.add_right_comm c.hits 1 c.misses
  entries := by
    rw [sinceClear_cons hkeeps, List.countP_cons_of_neg (by rw [hraised]; decide)]
    exact h.entries
  distinct := h.distinct
  failures := h.failures
  kept := by
    rw [readings_cons hkeeps, hreads]
    exact h.kept
  readOnce := by
    rw [readings_cons hkeeps, hreads]
    exact h.readOnce

/-- A lookup that raises keeps the books: it is a miss without an entry. -/
theorem Books.raised (h : c.Books log) (fresh : c.get? key = none) (hreads : x.reads = [key])
    (hraised : x.raised = true) : { c with misses := c.misses + 1 }.Books (x :: log) where
  idle := h.idle
  requests := (h.length_lookups hkeeps hasks).symm
  entries := by
    rw [sinceClear_cons hkeeps, List.countP_cons_of_pos hraised, ← Nat.add_assoc]
    exact congrArg (· + 1) h.entries
  distinct := h.distinct
  failures := h.failures
  kept := by
    rw [readings_cons hkeeps, hreads, hraised]
    intro key' hkey
    obtain hkey | hkey := List.mem_cons.mp hkey
    · cases hkey
    · exact h.kept key' hkey
  readOnce := h.readOnce_of_fresh hkeeps fresh hreads

/-- A lookup that builds a model keeps the books: it is a miss with an entry that is new. -/
theorem Books.built (h : c.Books log) {m : CachedModel} (fresh : c.get? key = none)
    (hreads : x.reads = [key]) (hraised : x.raised = false) :
    { c with
      entries := (key, m) :: c.entries
      misses := c.misses + 1
      parseFailures := c.parseFailures + if m.parsed then 0 else 1 }.Books (x :: log) where
  idle := h.idle
  requests := (h.length_lookups hkeeps hasks).symm
  entries := by
    have hentries := h.entries
    rw [sinceClear_cons hkeeps, List.countP_cons_of_neg (by rw [hraised]; decide)]
    simp only [size, List.length_cons] at hentries ⊢
    omega
  distinct := List.nodup_cons.mpr ⟨(c.get?_eq_none _).mp fresh, h.distinct⟩
  failures := by
    rw [List.countP_cons, ← h.failures]
    cases m <;> rfl
  kept := by
    rw [readings_cons hkeeps, hreads, hraised]
    intro key' hkey
    obtain hkey | hkey := List.mem_cons.mp hkey
    · cases hkey
      exact List.mem_cons_self
    · exact List.mem_cons_of_mem _ (h.kept key' hkey)
  readOnce := h.readOnce_of_fresh hkeeps fresh hreads

end Lookups

/-- A lookup keeps the books. -/
theorem Books.lookup (h : c.Books log) {build : ModelBuilder} {id path : String}
    {outcome : Except Stop CachedModel} {reads : List CacheKey}
    (hlooked : c.Looked (id, path) outcome reads c') :
    c'.Books (⟨.modelOf build id path, outcome.map .model, reads, c, c'⟩ :: log) := by
  cases hlooked with
  | hit entry => exact h.hit rfl rfl rfl rfl
  | raised fresh ended => exact h.raised rfl rfl fresh rfl rfl
  | built fresh => exact h.built rfl rfl fresh rfl rfl

/-- A lawful call keeps the books. -/
theorem Books.lawful {x : CacheRecord} (h : x.before.Books log) (hx : x.Lawful) :
    x.after.Books (x :: log) := by
  cases hx with
  | lookup looked => exact h.lookup looked
  | clear => exact h.clear rfl
  | @question call answer c keeps asks =>
    have hsince : sinceClear (⟨call, .ok answer, [], c, c⟩ :: log) = _ :: sinceClear log :=
      sinceClear_cons keeps
    have hlookups : lookups (⟨call, .ok answer, [], c, c⟩ :: log) = lookups log :=
      lookups_other keeps asks
    have hreadings : readings (⟨call, .ok answer, [], c, c⟩ :: log) = readings log :=
      readings_cons keeps
    exact {
      idle := h.idle
      requests := by rw [hlookups]; exact h.requests
      entries := by
        rw [hsince, List.countP_cons_of_neg (by exact Bool.false_ne_true)]
        exact h.entries
      distinct := h.distinct
      failures := h.failures
      kept := by rw [hreadings]; exact h.kept
      readOnce := by rw [hreadings]; exact h.readOnce }

end Cache

namespace CacheCall

/-- A lawful call waits for nobody, and leaves the entries where it raised. -/
theorem lawful_raised {x : CacheRecord} (hx : x.Lawful) :
    x.answer ≠ .error .stalled ∧ (x.raised = true → x.after.entries = x.before.entries) := by
  cases hx with
  | lookup looked =>
    cases looked with
    | hit entry => exact ⟨nofun, nofun⟩
    | raised fresh ended => exact ⟨fun h => ended (Except.error.inj h), fun _ => rfl⟩
    | built fresh => exact ⟨nofun, nofun⟩
  | clear => exact ⟨nofun, nofun⟩
  | question => exact ⟨nofun, nofun⟩

/-- **A cache keeps its books**: after calls one after the other, of a repository that may answer in
another way each time, nothing is being built; hits and misses are the lookups since the cache was
cleared last; there are as many entries as misses, but for the lookups that raised; the parse
failures are the entries of files that cannot be parsed; a file that was read with a model or a
failure to parse as outcome is not read again.  No call waits for a model that nobody finishes, and
one that raised leaves the entries as they were. -/
theorem cache_keeps_books (r : Repository σ) (calls : List (TimedCall σ)) (world : σ)
    (events : List Event) :
    (serveAll r calls ⟨world, {}, events⟩).2.cache.Books
        (serveAll r calls ⟨world, {}, events⟩).1 ∧
      ∀ x ∈ (serveAll r calls ⟨world, {}, events⟩).1,
        x.answer ≠ .error .stalled ∧ (x.raised = true → x.after.entries = x.before.entries) := by
  induction calls with
  | nil => exact ⟨Cache.books_empty, nofun⟩
  | cons t earlier ih =>
    obtain ⟨hbooks, hall⟩ := ih
    have hx := serve_lawful r t hbooks.idle
    exact ⟨hbooks.lawful hx, List.forall_mem_cons.mpr ⟨lawful_raised hx, hall⟩⟩

/-- A file that cannot be read the first time, and not be parsed the second, is not read again. -/
example :
    let file : Repository Nat :=
      { resolve := fun _ => .unsupported
        parentsTouching := fun _ _ => .unsupported
        readBlob := fun _ _ n =>
          (if n = 0 then .error (.fault ⟨"busy", none, none⟩) else .ok [], [], n)
        changedPaths := fun _ _ => .unsupported }
    let unparseable : ModelBuilder := fun _ path => .error (.parse ⟨path, "", none⟩)
    let look : TimedCall Nat := ⟨(· + 1), .modelOf unparseable "c" "p"⟩
    let first : TimedCall Nat := { look with meanwhile := id }
    (serveAll file [look, look, first] ⟨0, {}, []⟩).1.map (fun x => (x.reads, x.raised))
      = [([], false), ([("c", "p")], false), ([("c", "p")], true)] := by
  decide

end CacheCall
end Lineage
