import Lineage.History.Run
import Lineage.Matching.Change

/-!
Finding the version of an element before a commit: in an earlier version of its own file, or in
another file that the commit changed.
-/

namespace Lineage

/-- A version of an element whose parents are still to be examined. -/
structure Active where
  node : Nat
  commit : Commit
  path : String
  model : Model
  element : Element

/-- An earlier version of an element: where it is, what changed since, and how similar it is. -/
structure Match (α : Type) where
  commit : Commit
  path : String
  model : Model
  element : Element
  kind : ChangeKind
  score : α

/-- The outcome of going through the tiers: the tier and the classification of a match, or the best
score of all rejected candidates, if there were any. -/
inductive TierSearch (α : Type) where
  | accepted (tier : Tier) (chosen : Scored α) (kind : ChangeKind)
  | rejected (best : α)
  | nothing

/-- The outcome when no candidate was accepted. -/
def TierSearch.ofRejected {α : Type} (rejected : List Nat) (best : α) : TierSearch α :=
  if rejected.isEmpty then .nothing else .rejected best

namespace Lookup

variable {α : Type} [Score α]

/-- Goes through tiers until a candidate is accepted. Candidates that were rejected before are left
out. A tier that goes by names is decisive. -/
def searchFrom (q : Lookup) (c : MatchingConfig α) : List Tier → List Nat → α → TierSearch α
  | [], rejected, best => .ofRejected rejected best
  | tier :: rest, rejected, best =>
    let found := q.inTier (some c.matcher) c.maxAstCandidates.toNat tier
    if found.elements.isEmpty then q.searchFrom c rest rejected best
    else
      let candidates := found.elements.filter fun e => !rejected.contains e.index
      let decisive := tier.rank ≤ Tier.name.rank
      if candidates.isEmpty then
        if decisive then .ofRejected rejected best else q.searchFrom c rest rejected best
      else
        let result := q.classify c candidates
        match result.chosen with
        | some s => .accepted tier s result.kind
        | none =>
          let best := Score.larger best result.score
          let rejected := rejected ++ candidates.map (·.index)
          if decisive then .ofRejected rejected best else q.searchFrom c rest rejected best

/-- Goes through all tiers. -/
def search (q : Lookup) (c : MatchingConfig α) : TierSearch α := q.searchFrom c Tier.all [] Score.zero

/-- The candidate of another file that is accepted, with the change. Lines and tree positions say
nothing about another file, so only the tiers up to the one by container count. -/
def elsewhere? (q : Lookup) (c : MatchingConfig α) : Option (Scored α × ChangeKind) :=
  match q.candidatesFor (none : Option (Matcher α)) 3 with
  | none => none
  | some found =>
    if Tier.container.rank < found.tier.rank then none
    else
      let result := q.classify c found.elements
      result.chosen.map fun s => (s, result.kind)

end Lookup

/-- The outcome of looking into an earlier version of a file. -/
inductive MatchResult (α : Type) where
  | found (m : Match α)
  | absent
  | unparseable

namespace Walker

variable {σ α : Type} [Score α] (w : Walker σ α)

/-- The earlier version of an element in a file at a commit. -/
def matchIn (origin : Active) (commit : Commit) (path : String) : Walk σ α (MatchResult α) := do
  match ← w.modelOf commit.id path with
  | .unparseable => return .unparseable
  | .model earlier =>
    match (Lookup.mk origin.element origin.model earlier).search w.matching with
    | .accepted tier s kind =>
      Walk.onRun (Run.onReport (·.countTier tier))
      return .found ⟨commit, path, earlier, s.element, kind, s.score⟩
    | .rejected best =>
      Walk.tell .debug "no_candidate_above_threshold" [("commit", .text commit.shortId),
        ("element", .text origin.element.qualifiedName), ("best", w.shown best)]
      return .absent
    | .nothing => return .absent

/-- The better of two matches, the first one of two equally good. -/
def better (best : Option (Match α)) (m : Match α) : Option (Match α) :=
  match best with
  | none => some m
  | some b => if Score.lt b.score m.score then some m else some b

/-- Looks for an element in files of a parent, the best match counts. -/
def searchFiles (origin : Active) (parent : Commit) :
    List String → Option (Match α) → Walk σ α (Option (Match α))
  | [], best => return best
  | path :: rest, best => do
    match ← Walk.attempt (w.modelOf parent.id path) with
    | .error f =>
      Walk.tell .debug "move_source_unreadable" [("commit", .text parent.shortId),
        ("path", .text path), ("error", .text f.message)]
      searchFiles origin parent rest best
    | .ok .unparseable => searchFiles origin parent rest best
    | .ok (.model earlier) =>
      match (Lookup.mk origin.element origin.model earlier).elsewhere? w.matching with
      | none => searchFiles origin parent rest best
      | some (s, kind) =>
        searchFiles origin parent rest
          (better best ⟨parent, path, earlier, s.element, kind, s.score⟩)

/-- The files in which a moved element is looked for. -/
def moveSources (origin : Active) (paths : List String) : List String :=
  paths.filter fun p =>
    p != origin.path && w.config.sourceSuffixes.any fun s => s.toList.isSuffixOf p.toList

/-- Looks for an element in the other files that its commit changed. -/
def findMoved (origin : Active) (parentId : String) : Walk σ α (Option (Match α)) := do
  match ← Walk.attempt (Walk.inSession (.ask (w.repository.changedPaths origin.commit.id parentId))) with
  | .error f =>
    Walk.tell .warning "changed_paths_failed" [("commit", .text origin.commit.shortId),
      ("error", .text f.message)]
    return none
  | .ok paths =>
    let sources := w.moveSources origin paths
    if sources.isEmpty then return none
    match ← Walk.attempt (Walk.inSession (.ask (w.repository.resolve parentId))) with
    | .error f =>
      Walk.tell .warning "parent_unreadable" [("commit", .text (Commit.short parentId)),
        ("error", .text f.message)]
      return none
    | .ok parent =>
      let best ← w.searchFiles origin parent sources none
      if let some m := best then
        Walk.tell .info "element_moved" [("commit", .text origin.commit.shortId),
          ("old_path", .text m.path), ("new_path", .text origin.path)]
      return best

end Walker

end Lineage
